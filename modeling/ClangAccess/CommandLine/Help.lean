import ClangAccess.CommandLine.Opt

namespace ClangAccess

/-- Whom a command line speaks to. The program may be known by the name it was started under. -/
structure Addressee where
  level : Level
  startedAs : Option String
  deriving DecidableEq, Repr

namespace Addressee

/-- The words that a usage line opens with. -/
def name (a : Addressee) : String :=
  match a.level, a.startedAs with
  | .program, none => Level.program.name
  | .program, some started => started
  | command, none => command.name
  | command, some started => started ++ " " ++ command.name

/-- The general usage of a level. -/
def usage (a : Addressee) : String :=
  "Usage: " ++ a.name ++
    match a.level with
    | .program => " [OPTIONS] <COMMAND>"
    | .locate => " [OPTIONS]"
    | .parse => " [OPTIONS] <FILE> [-- <CLANG_ARGS>...]"
    | .help => " [COMMAND]..."

/-- The usage narrowed to some options, and with or without arguments for clang. -/
def usageWith (a : Addressee) (options : List Opt) (clangArgs : Bool) : String :=
  "Usage: " ++ a.name ++ String.join (options.eraseDups.map fun o => " " ++ o.display) ++
    match a.level with
    | .program => " <COMMAND>"
    | .parse => if clangArgs then " <FILE> -- <CLANG_ARGS>..." else " <FILE> [-- <CLANG_ARGS>...]"
    | .locate => ""
    | .help => " [COMMAND]..."

end Addressee

namespace Help

/-- A titled table: what to write on the left, what it does on the right. -/
def table (title : String) (rows : List (String × String)) : String :=
  let width := (rows.map fun row => row.1.length).foldl max 0
  "\n" ++ title ++ ":\n" ++
    String.join (rows.map fun (left, right) =>
      "  " ++ left ++ String.ofList (List.replicate (width - left.length) ' ') ++ "  " ++ right ++ "\n")

def optionRow (o : Opt) : String × String :=
  match o.short? with
  | some c => ("-" ++ c.toString ++ ", " ++ o.display, o.helpText)
  | none => ("    " ++ o.display, o.helpText)

def about : Level → String
  | .program => "Locate libclang and parse C++ translation units for code generation"
  | .locate => "Find libclang and print where it was found"
  | .parse => "Parse a single file and report its diagnostics"
  | .help => "Print this message or the help of the given subcommand(s)"

def arguments : Level → List (String × String)
  | .parse =>
    [("<FILE>", "The C++ source or header to parse"),
     ("[CLANG_ARGS]...", "Arguments passed verbatim to clang, after `--`")]
  | .help => [("[COMMAND]...", "Print help for the subcommand(s)")]
  | _ => []

def commandRows : Level → List (String × String)
  | .program => Level.commands.map fun c => (c.name, about c)
  | _ => []

def tableUnlessEmpty (title : String) (rows : List (String × String)) : String :=
  if rows.isEmpty then "" else table title rows

/-- The help of a level, which `-h`, `--help` and the `help` command all print. -/
def text (a : Addressee) : String :=
  about a.level ++ "\n\n" ++ a.usage ++ "\n" ++ tableUnlessEmpty "Commands" (commandRows a.level) ++
    tableUnlessEmpty "Arguments" (arguments a.level) ++ tableUnlessEmpty "Options" (a.level.options.map optionRow)

def version : String := "cxxast 0.1.0\n"

end Help

end ClangAccess
