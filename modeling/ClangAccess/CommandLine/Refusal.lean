import ClangAccess.CommandLine.Help
import ClangAccess.Text.Similarity

namespace ClangAccess

/-- What is wrong with a command line. -/
inductive Fault where
  | unknownArgument (argument : String)
  | unknownCommand (argument : String)
  | missingCommand (program : String)
  | missingFile
  | repeated (option : String)
  | exclusive (option other : String)
  | missingValue (argument : String)
  | unexpectedValue (value option : String)
  | notText
  deriving DecidableEq, Repr

def Fault.message : Fault → String
  | .unknownArgument argument => s!"unexpected argument '{argument}' found"
  | .unknownCommand argument => s!"unrecognized subcommand '{argument}'"
  | .missingCommand program =>
    s!"'{program}' requires a subcommand but one was not provided\n  [subcommands: " ++
      ", ".intercalate (Level.commands.map Level.name) ++ "]"
  | .missingFile => "the following required arguments were not provided:\n  <FILE>"
  | .repeated option => s!"the argument '{option}' cannot be used multiple times"
  | .exclusive option other => s!"the argument '{option}' cannot be used with '{other}'"
  | .missingValue argument => s!"a value is required for '{argument}' but none was supplied"
  | .unexpectedValue value option => s!"unexpected value '{value}' for '{option}' found; no more were expected"
  | .notText => "invalid UTF-8 was detected in one or more arguments"

/-- Why a command line is not carried out: it asks for help or the version, it is empty, or it is faulty. -/
inductive Stop where
  | help (text : String)
  | version
  | nothingAsked (help : String)
  | refused (fault : Fault) (tips : List String) (usage : Option String)
  deriving DecidableEq, Repr

namespace Stop

/-- Help and version are what was asked for; everything else is a failure of the caller. -/
def exitCode : Stop → Nat
  | .help _ | .version => 0
  | .nothingAsked _ | .refused .. => 2

/-- The whole of what the program prints. -/
def text : Stop → String
  | .help shown | .nothingAsked shown => shown
  | .version => Help.version
  | .refused fault tips usage =>
    "error: " ++ fault.message ++ (if tips.isEmpty then "" else "\n") ++
      String.join (tips.map fun tip => "\n  tip: " ++ tip) ++
      (usage.map fun u => "\n\n" ++ u).getD "" ++ "\n\nFor more information, try '--help'.\n"

end Stop

namespace Tip

def similarArgument (option : String) : String := s!"a similar argument exists: '{option}'"

def asValue (argument : String) : String := s!"to pass '{argument}' as a value, use '-- {argument}'"

def argumentOf (command option : String) : String := s!"'{command} {option}' exists"

def withoutDashes (command : String) : String :=
  s!"subcommand '{command}' exists; to use it, remove the '--' before it"

def similarCommands (names : List String) : String :=
  (if names.length = 1 then "a similar subcommand exists: " else "some similar subcommands exist: ") ++
    ", ".intercalate (names.map fun n => "'" ++ n ++ "'")

end Tip

end ClangAccess
