import TruthTables.Table.Sheet

/-!
# Boxed tables

A sheet as a box of text.  Every column is as wide as its widest text, every cell is filled up to
that width and has one space on each side, and rules of dashes stand above and below the heads and
at the end.  Colour codes go around a filled cell, so that they do not disturb the columns.

A sheet without rows is shown as nothing.  Cells beyond the heads are not shown, and a row with
fewer cells than heads cannot be shown.
-/

namespace TruthTables

/-- Why a sheet cannot be shown. -/
inductive RenderError where
  | shortRow
  | unknownFormat (name : String)
deriving DecidableEq, Repr

namespace Sheet.Box

/-- The widths of the columns: the greatest length of a head and the cells below it. -/
def widths (headers : List String) (body : List (List String)) : List Nat :=
  body.foldl (fun ws cells => ws.zipWith (fun w cell => max w cell.length) cells)
    (headers.map String.length)

def fill (width : Nat) (s : String) : List Char :=
  s.toList ++ List.replicate (width - s.length) ' '

/-- The code that starts a colour, green for true and red for false. -/
def colorCode (s : String) : List Char :=
  if s = Sheet.word true then ['\x1b', '[', '3', '2', 'm'] else ['\x1b', '[', '3', '1', 'm']

def resetCode : List Char := ['\x1b', '[', '0', 'm']

/-- A cell filled up and, if asked for, coloured. -/
def cell (color : Bool) (width : Nat) (s : String) : List Char :=
  if color then colorCode s ++ fill width s ++ resetCode else fill width s

def line (color : Bool) (widths : List Nat) (cells : List String) : List Char :=
  ['|', ' '] ++ [' ', '|', ' '].intercalate (widths.zipWith (cell color) cells) ++ [' ', '|']

def rule (widths : List Nat) : List Char :=
  '+' :: (['+'].intercalate (widths.map fun w => List.replicate (w + 2) '-') ++ ['+'])

def lines (color : Bool) (headers : List String) (body : List (List String)) : List (List Char) :=
  let ws := widths headers body
  [rule ws, line false ws headers, rule ws] ++ body.map (line color ws) ++ [rule ws]

end Sheet.Box

/-- A sheet as a box of text. -/
def Sheet.box (s : Sheet) (color : Bool) : Except RenderError String :=
  if s.rows.isEmpty then .ok ""
  else if s.body.any fun cells => cells.length < s.headers.length then .error .shortRow
  else .ok (String.ofList (['\n'].intercalate (Sheet.Box.lines color s.headers s.body)))

end TruthTables
