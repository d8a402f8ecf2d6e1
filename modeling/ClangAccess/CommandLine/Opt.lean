import ClangAccess.Path

namespace ClangAccess

/-- What a list of arguments is addressed to: the program itself or one of its commands. -/
inductive Level where
  | program
  | locate
  | parse
  | help
  deriving DecidableEq, Repr

/-- The options of the program and its commands. -/
inductive Opt where
  | json
  | incomplete
  | keepFunctionBodies
  | noDetailedRecords
  | verbose
  | quiet
  | libclangDir
  | help
  | version
  deriving DecidableEq, Repr

namespace Opt

def long : Opt → String
  | .json => "json"
  | .incomplete => "incomplete"
  | .keepFunctionBodies => "keep-function-bodies"
  | .noDetailedRecords => "no-detailed-records"
  | .verbose => "verbose"
  | .quiet => "quiet"
  | .libclangDir => "libclang-dir"
  | .help => "help"
  | .version => "version"

def short? : Opt → Option Char
  | .verbose => some 'v'
  | .quiet => some 'q'
  | .help => some 'h'
  | .version => some 'V'
  | _ => none

/-- The option as messages name it: with its value, or with dots if it may be repeated. -/
def display : Opt → String
  | .libclangDir => "--libclang-dir <LIBCLANG_DIR>"
  | .verbose => "--verbose..."
  | .quiet => "--quiet..."
  | o => "--" ++ o.long

def helpText : Opt → String
  | .json => "Print the result as JSON"
  | .incomplete => "Tolerate unresolved includes"
  | .keepFunctionBodies => "Parse function bodies instead of skipping them"
  | .noDetailedRecords => "Drop macro expansion and inclusion records"
  | .verbose => "Increase logging verbosity"
  | .quiet => "Decrease logging verbosity"
  | .libclangDir =>
    "Directory containing the libclang shared library. Takes precedence over LIBCLANG_PATH, LLVM_LIB_DIR and " ++
      "anything found on PATH"
  | .help => "Print help"
  | .version => "Print version"

end Opt

namespace Level

/-- The options of a level in the order in which help lists them. -/
def options : Level → List Opt
  | .program => [.verbose, .quiet, .libclangDir, .help, .version]
  | .locate => [.json, .verbose, .quiet, .libclangDir, .help]
  | .parse => [.incomplete, .verbose, .keepFunctionBodies, .quiet, .libclangDir, .noDetailedRecords, .help]
  | .help => []

def name : Level → String
  | .program => "cxxast"
  | .locate => "locate"
  | .parse => "parse"
  | .help => "help"

/-- The commands of the program. -/
def commands : List Level := [.locate, .parse, .help]

/-- The command that an argument names, letter by letter. -/
def command? (argument : Bytes) : Option Level :=
  commands.find? fun c => Bytes.ofText c.name == argument

def ofLong? (level : Level) (name : String) : Option Opt :=
  level.options.find? fun o => o.long == name

def ofShort? (level : Level) (c : Char) : Option Opt :=
  level.options.find? fun o => o.short? == some c

/-- Only `parse` takes arguments that are not options. -/
def hasPositionals : Level → Bool
  | .parse => true
  | _ => false

end Level

end ClangAccess
