import TruthTables.Arguments.Help
import TruthTables.Files.FormulaFile
import TruthTables.Journal.Basic
import TruthTables.Table.Build

/-!
# The command line

A run of the program takes the words of its command line, a file system, and a way to build
tables.  It ends with a code, and with what it wrote to its two outputs: the table alone goes to
the standard output, and notes go to the error output.
-/

namespace TruthTables

/-- Why a run gives no table. -/
inductive Failure where
  | formula (text : String)
  | tooManyVariables (text : String)
  | file (text : String)
  | evaluation (text : String)
  | interrupted
  | unshowable (e : RenderError)
  | valueNeeded (setting : Arguments.Setting)
deriving DecidableEq, Repr

namespace Failure

/-- The code with which a failed run ends.  There is none for a failure that is no fault of the
formula or the file; it breaks the run off. -/
def code? : Failure → Option Nat
  | formula _ => some 2
  | file _ => some 3
  | tooManyVariables _ => some 4
  | evaluation _ => some 5
  | interrupted => some 5
  | unshowable _ => none
  | valueNeeded _ => none

def message : Failure → String
  | formula text => "Formula parsing error: " ++ text
  | tooManyVariables text => "Too many variables: " ++ text
  | file text => "Formula file error: " ++ text
  | evaluation text => "Evaluation error: " ++ text
  | interrupted => "Interrupted by user"
  | unshowable e => e.message
  | valueNeeded .file => "expected str, bytes or os.PathLike object, not list"
  | valueNeeded .format => "unhashable type: 'list'"
  | valueNeeded .maxVariables => "'>' not supported between instances of 'int' and 'list'"

def ofTableError (e : TableError) : Failure :=
  match e with
  | .parse _ => formula e.message
  | .tooManyVariables _ _ => tooManyVariables e.message
  | .evaluation .numeralTooLong => file e.message
  | .evaluation (.unbound _) => evaluation e.message

end Failure

/-- A way to build the table of a formula text, with or without steps and with a limit to the
number of variables, if the limit was given a value. -/
abbrev TableBuilder := String → Bool → Option Int → Noted (Except Failure (Table Formula))

/-- The way in which the program builds tables.  The limit is needed as soon as the formula has been
read. -/
def standardBuilder : TableBuilder := fun formula withSteps limit =>
  match limit with
  | some n =>
    let noted := Table.ofInputNoted (.string formula) withSteps (some n)
    ⟨noted.value.mapError Failure.ofTableError, noted.notes⟩
  | none =>
    let read := Formula.ofInputNoted (.string formula)
    ⟨match read.value with
      | .ok _ => .error (.valueNeeded .maxVariables)
      | .error e => .error (.formula e.message), read.notes⟩

/-- How a run ends. -/
inductive Ending where
  /-- The work is done or has failed, with a code. -/
  | returned (code : Nat)
  /-- The command line did not lead to any work, with a code. -/
  | exited (code : Nat)
  /-- The work broke off at a failure. -/
  | brokenOff (failure : Failure)
deriving DecidableEq, Repr

def Ending.code : Ending → Nat
  | returned code => code
  | exited code => code
  | brokenOff _ => 1

/-- What a run leaves behind. -/
structure Outcome where
  ending : Ending
  output : String
  errors : String
deriving DecidableEq, Repr

namespace Arguments

def Source.fetch (fs : FileSystem) : Source → Except Failure String
  | formula text => .ok text
  | file none => .error (.valueNeeded .file)
  | file (some path) => (fs.formulaAt path).mapError fun e => .file e.message

/-- The last line of an output with a summary, and the empty line before it. -/
def summaryText (t : Table Formula) : String :=
  "\n" ++ t.source ++ ": " ++ t.verdict.name ++ "\n"

/-- What is written of a table that has rows to the standard output. -/
def Options.text (o : Options) (t : Table Formula) : Except Failure String :=
  match o.format with
  | none => .error (.valueNeeded .format)
  | some format => do
    let text ← (t.sheet.render format o.color).mapError .unshowable
    return text ++ "\n" ++ (if o.summary then summaryText t else "")

/-- What is written of a table to the standard output, with a warning if there is nothing to
write. -/
def Options.show (o : Options) (t : Table Formula) : Noted (Except Failure String) :=
  if t.isEmpty then
    ⟨.ok "", [.warning "Formula has no variables, nothing to display"]⟩
  else
    ⟨o.text t, []⟩

def Request.answer (r : Request) (fs : FileSystem) (build : TableBuilder) :
    Noted (Except Failure String) :=
  match r.source.fetch fs with
  | .error e => ⟨.error e, []⟩
  | .ok formula =>
    let built := build formula r.options.steps r.options.maxVariables
    match built.value with
    | .error e => ⟨.error e, built.notes⟩
    | .ok t =>
      let shown := r.options.show t
      ⟨shown.value, built.notes ++ shown.notes⟩

def Request.journal (r : Request) : Journal :=
  (Journal.ofLevel .info).configure r.options.verbose r.options.debug

/-- The outcome of a request. -/
def Request.run (r : Request) (fs : FileSystem) (build : TableBuilder) : Outcome :=
  let answer := r.answer fs build
  match answer.value with
  | .ok text => ⟨.returned 0, text, r.journal.write answer.notes⟩
  | .error e =>
    match e.code? with
    | some code => ⟨.returned code, "", r.journal.write (answer.notes ++ [.error e.message])⟩
    | none => ⟨.brokenOff e, "", r.journal.write answer.notes⟩

end Arguments

/-- The outcome of a run of the program. -/
def run (fs : FileSystem) (build : TableBuilder) (words : List String) : Outcome :=
  match Arguments.Request.ofTexts words with
  | .ok request => request.run fs build
  | .error .help => ⟨.exited 0, Arguments.help, ""⟩
  | .error (.misuse m) => ⟨.exited 2, "", Arguments.complaint m⟩

end TruthTables
