import GenWalk.Text.Basic

/-!
How a process ends: by itself with a code, or by a signal. Both are told by one number, the code or
the negative signal.
-/

namespace GenWalk

inductive Ending where
  | exited (code : Nat)
  | killed (signal : Nat)
deriving DecidableEq, Inhabited

namespace Ending

def signalNames : List (Nat × String) := [
  (1, "SIGHUP"), (2, "SIGINT"), (3, "SIGQUIT"), (4, "SIGILL"), (5, "SIGTRAP"), (6, "SIGABRT"),
  (7, "SIGBUS"), (8, "SIGFPE"), (9, "SIGKILL"), (10, "SIGUSR1"), (11, "SIGSEGV"), (12, "SIGUSR2"),
  (13, "SIGPIPE"), (14, "SIGALRM"), (15, "SIGTERM"), (16, "SIGSTKFLT"), (17, "SIGCHLD"),
  (18, "SIGCONT"), (19, "SIGSTOP"), (20, "SIGTSTP"), (21, "SIGTTIN"), (22, "SIGTTOU"),
  (23, "SIGURG"), (24, "SIGXCPU"), (25, "SIGXFSZ"), (26, "SIGVTALRM"), (27, "SIGPROF"),
  (28, "SIGWINCH"), (29, "SIGIO"), (30, "SIGPWR"), (31, "SIGSYS"), (34, "SIGRTMIN"),
  (64, "SIGRTMAX")]

def ofReturnCode : Int → Ending
  | .ofNat code => exited code
  | .negSucc signal => killed (signal + 1)

def returnCode : Ending → Int
  | exited code => code
  | killed signal => -signal

def describe : Ending → Text
  | exited code => "exit status " ++ Text.ofNat code
  | killed signal => "signal: " ++ match signalNames.lookup signal with
    | some name => Text.ofString name
    | none => Text.ofNat signal

end Ending

end GenWalk
