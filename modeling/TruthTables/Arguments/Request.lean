import TruthTables.Arguments.Word
import TruthTables.Files.Path
import TruthTables.Table.Format

/-!
# Requests

A request is what a command line asks for: a formula, given as such or as the path of a file, and
how its table is to be shown.  The words of the command line are worked off from left to right,
and the first fault ends the work; only that a formula is missing, and after that which words were
left over, is said at the end.

A setting may be left without a value by the value `--`, which ends the switches and is itself
nothing.  That is no fault of the command line; such a setting is missed when it is needed.
-/

namespace TruthTables

namespace Arguments

/-- Where the formula comes from. -/
inductive Source where
  | formula (text : String)
  /-- It is in the file at a path, if a path was given. -/
  | file (path : Option Path)
deriving DecidableEq, Repr

/-- How a table is asked for. -/
structure Options where
  steps : Bool := false
  /-- The format of the table, if the setting has a value. -/
  format : Option Format := some .table
  color : Bool := false
  /-- The greatest number of variables, if the setting has a value. -/
  maxVariables : Option Int := some 16
  summary : Bool := false
  verbose : Bool := false
  debug : Bool := false
deriving DecidableEq, Repr

/-- What a command line asks for. -/
structure Request where
  source : Source
  options : Options
deriving DecidableEq, Repr

/-- What is wrong with a command line. -/
inductive Misuse where
  | ambiguous (a : Ambiguity)
  | ignoredValue (flag : Flag) (value : String)
  | missingValue (setting : Setting)
  | invalidNumber (text : String)
  | invalidFormat (text : String)
  | fileAfterFormula
  | formulaAfterFile
  | nothingGiven
  | leftOver (words : List String)
deriving DecidableEq, Repr

def formulaName : String := "formula"

def Misuse.message : Misuse → String
  | ambiguous a =>
    "ambiguous option: " ++ a.word ++ " could match " ++ ", ".intercalate a.candidates
  | ignoredValue flag value =>
    "argument " ++ (Switch.flag flag).name ++ ": ignored explicit argument " ++ Text.quote value
  | missingValue setting =>
    "argument " ++ (Switch.setting setting).name ++ ": expected one argument"
  | invalidNumber text =>
    "argument " ++ (Switch.setting .maxVariables).name ++ ": invalid int value: " ++ Text.quote text
  | invalidFormat text =>
    "argument " ++ (Switch.setting .format).name ++ ": invalid choice: " ++ Text.quote text
      ++ " (choose from " ++ ", ".intercalate (Format.all.map fun f => Text.quote f.name) ++ ")"
  | fileAfterFormula =>
    "argument " ++ (Switch.setting .file).name ++ ": not allowed with argument " ++ formulaName
  | formulaAfterFile =>
    "argument " ++ formulaName ++ ": not allowed with argument " ++ (Switch.setting .file).name
  | nothingGiven =>
    "one of the arguments " ++ formulaName ++ " " ++ (Switch.setting .file).name ++ " is required"
  | leftOver words => "unrecognized arguments: " ++ " ".intercalate words

/-- Why a command line is not carried out. -/
inductive Refusal where
  | help
  | misuse (m : Misuse)
deriving DecidableEq, Repr

/-- What has been gathered of a command line. -/
structure Gathered where
  source : Option Source := none
  /-- Whether the place of the formula is still free. -/
  vacant : Bool := true
  options : Options := {}
  /-- The words that were left over, the last one first. -/
  left : List String := []
deriving DecidableEq, Repr

namespace Gathered

def takeFormula (g : Gathered) (text : String) : Except Refusal Gathered :=
  match g.source with
  | some (.file _) => .error (.misuse .formulaAfterFile)
  | _ => .ok { g with source := some (.formula text), vacant := false }

def takeFlag (g : Gathered) : Flag → Except Refusal Gathered
  | .help => .error .help
  | .steps => .ok { g with options := { g.options with steps := true } }
  | .color => .ok { g with options := { g.options with color := true } }
  | .summary => .ok { g with options := { g.options with summary := true } }
  | .verbose => .ok { g with options := { g.options with verbose := true } }
  | .debug => .ok { g with options := { g.options with debug := true } }

/-- The value that a word gives to a setting, which is none if the word is `--`. -/
def valueOf? (word : String) : Option String := if word = "--" then none else some word

def takeFile (g : Gathered) (path : Option Path) : Except Refusal Gathered :=
  match g.source with
  | some (.formula _) => .error (.misuse .fileAfterFormula)
  | _ => .ok { g with source := some (.file path) }

def takeFormat (g : Gathered) (format : Option Format) : Gathered :=
  { g with options := { g.options with format := format } }

def takeLimit (g : Gathered) (limit : Option Int) : Gathered :=
  { g with options := { g.options with maxVariables := limit } }

def takeSetting (g : Gathered) (setting : Setting) (word : String) : Except Refusal Gathered :=
  match setting, valueOf? word with
  | .file, value => g.takeFile (value.map Path.ofText)
  | .format, none => .ok (g.takeFormat none)
  | .format, some value =>
    match Format.ofName value with
    | .ok f => .ok (g.takeFormat (some f))
    | .error _ => .error (.misuse (.invalidFormat value))
  | .maxVariables, none => .ok (g.takeLimit none)
  | .maxVariables, some value =>
    match Text.readInt? value with
    | some n => .ok (g.takeLimit (some n))
    | none => .error (.misuse (.invalidNumber value))

def leave (g : Gathered) (word : String) : Gathered := { g with left := word :: g.left }

def takeFlags (g : Gathered) (flags : List Flag) : Except Refusal Gathered :=
  flags.foldlM takeFlag g

def finish (g : Gathered) : Except Refusal Request :=
  match g.source with
  | none => .error (.misuse .nothingGiven)
  | some source =>
    if g.left.isEmpty then .ok ⟨source, g.options⟩
    else .error (.misuse (.leftOver g.left.reverse))

end Gathered

/-- The switches of one word: flags, and after them a setting, with the word for its value if that
stands behind it. -/
structure Cluster where
  flags : List Flag
  /-- The setting at the end, if there is one. -/
  setting : Option (Setting × Option String)
deriving DecidableEq, Repr

namespace Cluster

/-- A switch with nothing behind it. -/
def ofSwitch : Switch → Cluster
  | .flag f => ⟨[f], none⟩
  | .setting v => ⟨[], some (v, none)⟩

/-- A switch with characters behind it.  Behind a setting they are its value; behind a flag the
first of them must spell a further switch, and the rest stands behind that one. -/
def ofAttached (s : Switch) : List Char → Except Misuse Cluster
  | [] =>
    match s with
    | .flag f => .error (.ignoredValue f "")
    | .setting v => .ok ⟨[], some (v, some "")⟩
  | c :: rest =>
    match s with
    | .setting v => .ok ⟨[], some (v, some (String.ofList (c :: rest)))⟩
    | .flag f =>
      match Switch.ofSpelling? (String.ofList ['-', c]) with
      | none => .error (.ignoredValue f (String.ofList (c :: rest)))
      | some next => do
        let behind ← if rest.isEmpty then .ok (ofSwitch next) else ofAttached next rest
        return ⟨f :: behind.flags, behind.setting⟩

/-- The switches of a word that starts with a switch.  Behind a long flag nothing may stand. -/
def ofWord (s : Switch) (long : Bool) : Option (List Char) → Except Misuse Cluster
  | none => .ok (ofSwitch s)
  | some cs =>
    match s with
    | .flag f =>
      if long then .error (.ignoredValue f (String.ofList cs)) else ofAttached (.flag f) cs
    | .setting v => ofAttached (.setting v) cs

end Cluster

namespace Gathered

/-- Works off the words from left to right. -/
def gather (g : Gathered) : List Word → Except Refusal Gathered
  | [] => .ok g
  | .plain text :: .separator :: rest => do
    if g.vacant then
      gather (← g.takeFormula text) rest
    else
      gather ((g.leave text).leave "--") rest
  | .plain text :: rest => do
    if g.vacant then
      gather (← g.takeFormula text) rest
    else
      gather (g.leave text) rest
  | .separator :: rest =>
    gather (if g.vacant then g else g.leave "--") rest
  | .unknown text :: rest => gather (g.leave text) rest
  | .switch s long attached :: rest => do
    let cluster ← (Cluster.ofWord s long attached).mapError .misuse
    match cluster.setting with
    | none => gather (← g.takeFlags cluster.flags) rest
    | some (setting, some word) =>
      gather (← (← g.takeFlags cluster.flags).takeSetting setting word) rest
    | some (setting, none) =>
      match rest with
      | .plain word :: rest =>
        gather (← (← g.takeFlags cluster.flags).takeSetting setting word) rest
      | _ => .error (.misuse (.missingValue setting))

end Gathered

def Request.ofTexts (texts : List String) : Except Refusal Request := do
  let words ← (Word.ofTexts texts).mapError fun a => .misuse (.ambiguous a)
  (← ({} : Gathered).gather words).finish

end Arguments

end TruthTables
