import Winnow.CommandLine.Grammar
import Winnow.Log

/-!
The command line of this program: a command, `run` or `classify`, with options before and after it. A command
line that asks for help, or makes no sense, ends the program with a text.
-/
set_option autoImplicit false

namespace Winnow
open CommandLine

structure RunArguments where
  config : Option String := none
  source : Option String := none
  output : Option String := none
  prefixes : Option (List String) := none
  report : Option String := none
  logFile : Option String := none
  deriving DecidableEq, Repr

inductive Command
  | run (arguments : RunArguments)
  | classify (config : Option String) (names : List String)
  deriving DecidableEq, Repr

structure Arguments where
  verbosity : Log.Verbosity
  command : Command
  deriving DecidableEq, Repr

/-- How a program ends by itself: with a code, and with texts on both outputs. -/
structure Exit where
  code : Nat
  output : String
  errors : String
  deriving DecidableEq, Repr

namespace Arguments

/-! The grammars. -/

def helpOption : Opt := { names := ["-h", "--help"] }
def verboseOption : Opt := { names := ["-v", "--verbose"], rivals := ["--quiet"] }
def quietOption : Opt := { names := ["-q", "--quiet"], rivals := ["--verbose"] }
def configOption : Opt := { names := ["--config"], takesValue := true }

def mainGrammar : Grammar where
  options := [helpOption, verboseOption, quietOption]
  positional := .command "command" ["run", "classify"]

def runGrammar : Grammar where
  options := [helpOption, verboseOption, quietOption, configOption] ++
    ["--source", "--output", "--prefix", "--report", "--log-file"].map fun name =>
      { names := [name], takesValue := true }
  positional := .none

def classifyGrammar : Grammar where
  options := [helpOption, verboseOption, quietOption, configOption]
  positional := .words "names"

/-! The texts. -/

def mainUsage : String := "usage: typesift [-h] [-v | -q] \x7brun,classify\x7d ...\n"

def mainHelp : String := mainUsage ++ "
Decompile important managed modules into one source file per authored type.

positional arguments:
  \x7brun,classify\x7d
    run           Decompile every important module in the source directory.
    classify      Show whether type names would be treated as compiler
                  generated.

options:
  -h, --help      show this help message and exit
  -v, --verbose   Log skipped generated types and other debug detail.
  -q, --quiet     Only log warnings and errors to the console.
"

def runUsage : String := "usage: typesift run [-h] [-v | -q] [--config CONFIG] [--source SOURCE]
                    [--output OUTPUT] [--prefix PREFIX] [--report REPORT]
                    [--log-file LOG_FILE]
"

def runHelp : String := runUsage ++ "
options:
  -h, --help           show this help message and exit
  -v, --verbose        Log skipped generated types and other debug detail.
  -q, --quiet          Only log warnings and errors to the console.
  --config CONFIG      Path to .typesift.yml or its directory (defaults to
                       current directory).
  --source SOURCE      Directory containing *.dll modules.
  --output OUTPUT      Root directory for decompiled output.
  --prefix PREFIX      Important module name prefix (repeatable, case-
                       insensitive).
  --report REPORT      Write a JSON run report to this path (relative paths
                       land in the output root).
  --log-file LOG_FILE  Write a DEBUG run log to this path (relative paths land
                       in the output root).
"

def classifyUsage : String :=
  "usage: typesift classify [-h] [-v | -q] [--config CONFIG] names [names ...]\n"

def classifyHelp : String := classifyUsage ++ "
positional arguments:
  names            Simple type names to classify.

options:
  -h, --help       show this help message and exit
  -v, --verbose    Log skipped generated types and other debug detail.
  -q, --quiet      Only log warnings and errors to the console.
  --config CONFIG  Path to .typesift.yml or its directory (defaults to current
                   directory).
"

structure Part where
  program : String
  usage : String
  help : String
  grammar : Grammar

def mainPart : Part := ⟨"typesift", mainUsage, mainHelp, mainGrammar⟩
def runPart : Part := ⟨"typesift run", runUsage, runHelp, runGrammar⟩
def classifyPart : Part := ⟨"typesift classify", classifyUsage, classifyHelp, classifyGrammar⟩

def Part.exit (p : Part) : UsageError → Exit
  | .help => ⟨0, p.help, ""⟩
  | e => ⟨2, "", p.usage ++ p.program ++ ": error: " ++ e.message ++ "\n"⟩

def Part.read (p : Part) (arguments : List String) : Except Exit Reading :=
  (p.grammar.read arguments).mapError p.exit

/-! What has been read, as values. -/

def values (r : Reading) (key : String) : List String :=
  (r.given.filter fun g => g.1.key == key).map (·.2)

def value? (r : Reading) (key : String) : Option String := (values r key).getLast?

def isGiven (r : Reading) (key : String) : Bool := !(values r key).isEmpty

def runArguments (r : Reading) : RunArguments where
  config := value? r "--config"
  source := value? r "--source"
  output := value? r "--output"
  prefixes := if isGiven r "--prefix" then some (values r "--prefix") else none
  report := value? r "--report"
  logFile := value? r "--log-file"

def read (arguments : List String) : Except Exit Arguments := do
  let outer ← mainPart.read arguments
  let (inner, command) ← match outer.words.getD [] with
    | "run" :: rest => do
      let r ← runPart.read rest
      pure (r, Command.run (runArguments r))
    | words => do
      let r ← classifyPart.read words.tail
      pure (r, Command.classify (value? r "--config") (r.words.getD []))
  let extras := outer.extras ++ inner.extras
  if !extras.isEmpty then throw (mainPart.exit (.unrecognized extras))
  return {
    verbosity := {
      verbose := isGiven outer "--verbose" || isGiven inner "--verbose"
      quiet := isGiven outer "--quiet" || isGiven inner "--quiet" }
    command }

end Arguments

end Winnow
