namespace ClangAccess

/-- How much a program tells: everything up to the named level. -/
inductive LogLevel where
  | off
  | error
  | warn
  | info
  | debug
  | trace
  deriving DecidableEq, Repr

namespace LogLevel

def rank : LogLevel → Nat
  | .off => 0
  | .error => 1
  | .warn => 2
  | .info => 3
  | .debug => 4
  | .trace => 5

def label : LogLevel → String
  | .off => "OFF"
  | .error => "ERROR"
  | .warn => "WARN"
  | .info => "INFO"
  | .debug => "DEBUG"
  | .trace => "TRACE"

/-- The level of a rank, the last one for every rank beyond it. -/
def ofRank : Nat → LogLevel
  | 0 => .off
  | 1 => .error
  | 2 => .warn
  | 3 => .info
  | 4 => .debug
  | _ => .trace

/-- Whether a record of one level is told at a verbosity. -/
def admits (verbosity level : LogLevel) : Bool := level.rank ≤ verbosity.rank

end LogLevel

structure Record where
  level : LogLevel
  text : String
  deriving DecidableEq, Repr

namespace Record

def debug (text : String) : Record := ⟨.debug, text⟩

def warn (text : String) : Record := ⟨.warn, text⟩

/-- The records that a verbosity lets through. -/
def admitted (verbosity : LogLevel) (records : List Record) : List Record :=
  records.filter fun r => verbosity.admits r.level

end Record

end ClangAccess
