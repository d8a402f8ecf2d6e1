import ClangAccess.Inquiry
import ClangAccess.Text.Blank

namespace ClangAccess

/-- How a program came to its end. -/
inductive ExitStatus where
  | exited (code : Nat)
  | killed (signal : Nat) (coreDumped : Bool)
  deriving DecidableEq, Repr

namespace ExitStatus

def success : ExitStatus := .exited 0

/-- The names of the signals, from number one on. -/
def signalNames : List String :=
  ["SIGHUP", "SIGINT", "SIGQUIT", "SIGILL", "SIGTRAP", "SIGABRT", "SIGBUS", "SIGFPE", "SIGKILL", "SIGUSR1",
   "SIGSEGV", "SIGUSR2", "SIGPIPE", "SIGALRM", "SIGTERM", "SIGSTKFLT", "SIGCHLD", "SIGCONT", "SIGSTOP",
   "SIGTSTP", "SIGTTIN", "SIGTTOU", "SIGURG", "SIGXCPU", "SIGXFSZ", "SIGVTALRM", "SIGPROF", "SIGWINCH",
   "SIGIO", "SIGPWR", "SIGSYS"]

def signalName? : Nat → Option String
  | 0 => none
  | n + 1 => signalNames[n]?

def text : ExitStatus → String
  | exited code => s!"exit status: {code}"
  | killed signal coreDumped =>
    let named :=
      match signalName? signal with
      | some name => s!"signal: {signal} ({name})"
      | none => s!"signal: {signal}"
    if coreDumped then named ++ " (core dumped)" else named

end ExitStatus

/-- What becomes of a program that is started with an empty input. -/
inductive Launch where
  | refused (reason : String)
  | ended (microseconds : Nat) (status : ExitStatus) (stdout stderr : Bytes)
  | endless

/-- The machine that a search runs on: its environment, its search path, its programs and its files. -/
structure Site where
  env : String → Option Bytes
  find : String → Option Path
  launch : Path → List String → Launch
  canonical? : Path → Option Path

namespace Site

/-- Tools are given ten seconds. Times are in microseconds. -/
def defaultTimeout : Nat := 10_000_000

/-- The lines of text that are not empty. -/
def joined (texts : List String) : String :=
  "\n".intercalate (texts.filter fun s => !s.isEmpty)

/-- The output of a program that ended well in good time, trimmed. Its error output counts only if it failed. -/
def outcome (timeout : Nat) (program : Path) (args : List String) : Launch → Except ProbeError String
  | .refused reason => .error (.spawn program reason)
  | .endless => .error (.timedOut program timeout)
  | .ended microseconds status stdout stderr =>
    let output := trimBlanks stdout.lossy
    if timeout ≤ microseconds then .error (.timedOut program timeout)
    else if status = .success then .ok output
    else
      .error (.toolFailed (commandLine program args) status.text (joined [output, trimBlanks stderr.lossy]))

/-- The host that a machine makes. Of what it runs it notes the output. -/
def host (s : Site) (timeout : Nat) : Host where
  windows := false
  canonical? := s.canonical?
  answer
    | .env name => s.env name
    | .find name => s.find name
    | .run program args => outcome timeout program args (s.launch program args)
  remarks
    | .run program args =>
      match outcome timeout program args (s.launch program args) with
      | .ok output => [.debug s!"`{commandLine program args}` returned: {output}"]
      | .error _ => []
    | _ => []

end Site

end ClangAccess
