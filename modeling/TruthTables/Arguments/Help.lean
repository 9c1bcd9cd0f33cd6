import TruthTables.Arguments.Request

/-!
# Help texts

The usage lines, which precede every complaint about a command line, and the help text.
-/

namespace TruthTables.Arguments

def programName : String := "run_truth_table.py"

def ofLines (lines : List String) : String :=
  String.join (lines.map fun line => line ++ "\n")

def usage : String := ofLines [
  "usage: run_truth_table.py [-h] [-f FILE] [-s] [--format \x7bcsv,json,table\x7d]",
  "                          [--color] [--max-vars MAX_VARS] [--summary] [-v]",
  "                          [--debug]",
  "                          [formula]"]

def help : String := usage ++ ofLines [
  "",
  "Veritas propositional logic truth table generator",
  "",
  "positional arguments:",
  "  formula               Formula to evaluate",
  "",
  "options:",
  "  -h, --help            show this help message and exit",
  "  -f FILE, --file FILE  Path to a file containing the formula",
  "  -s, --steps           Add a column for every intermediate sub-expression",
  "  --format \x7bcsv,json,table\x7d",
  "                        Output format (default: table)",
  "  --color               Colour true/false cells in table output",
  "  --max-vars MAX_VARS   Refuse formulas with more variables (default: 16)",
  "  --summary             Print whether the formula is a tautology,",
  "                        contradiction or satisfiable",
  "  -v, --verbose         Enable verbose output",
  "  --debug               Enable debug output (overrides --verbose)",
  "",
  "Examples:",
  "  python run_truth_table.py \"(a&b)|((!a)&(!b))\"",
  "  python run_truth_table.py \"a & (b | (!c))\" --steps",
  "  python run_truth_table.py -f formula.txt --format csv",
  "  python run_truth_table.py \"p => q\" --summary --color",
  "",
  "Operators:",
  "  !  not      &  and      |  or",
  "  => implies  <=> iff     <!=> xor",
  "",
  "Different binary operators must be separated with parentheses:",
  "  \"a & b | c\" is rejected, \"(a & b) | c\" is accepted.",
  "        "]

def complaint (m : Misuse) : String :=
  usage ++ programName ++ ": error: " ++ m.message ++ "\n"

end TruthTables.Arguments
