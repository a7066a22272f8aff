import LocalNet.Host.Stream

/-!
# Commands

How a command is run: a pipe is made, the process splits in two, the child turns into the command
and the parent reads the pipe and waits. A script answers the requests of the coming runs; it says
for which of the two processes it speaks. Output that a run has read and faults that it has met are
gone for the next one, while the way in which commands end stays.

- `CommandScript.run`: the whole run, with the pipe ends that the parent closes, and what it leaves
  of the script;
- `Execution.result`: what the caller of the run learns.
-/

namespace LocalNet

/-- The outcome of a command. -/
structure CommandResult where
  /-- Whether there was a process at all. -/
  launched : Bool := false
  /-- The exit code, or -1 if there is none. -/
  exitCode : Int := -1
  /-- The standard output. -/
  output : Text := []
deriving DecidableEq

/-- How a child process ends. -/
inductive Ending where
  /-- By itself, with a status of which the low eight bits are kept. -/
  | exited (status : Int)
  /-- By a signal. -/
  | killed (signal : Nat)
deriving DecidableEq

/-- The exit code that the parent sees. -/
def Ending.exitCode : Ending → Int
  | .exited status => status % 256
  | .killed _ => -1

/-- The answers to the requests of the coming runs. -/
structure CommandScript where
  /-- The fault of making the pipe. -/
  pipeFault : Option Errno := none
  /-- The fault of splitting the process. -/
  forkFault : Option Errno := none
  /-- What parents read from their pipes. -/
  output : Stream := {}
  /-- The faults of the next requests that wait for a child. -/
  waitFaults : List Errno := []
  /-- How the child ends. -/
  ending : Ending := .exited 0
  /-- Whether the script speaks for the child. -/
  inChild : Bool := false
  /-- The fault of connecting the child's standard output. -/
  duplicateFault : Option Errno := none

/-- An end of the pipe. -/
inductive PipeEnd where
  /-- The end that is read. -/
  | reading
  /-- The end that is written. -/
  | writing
deriving DecidableEq

/-- What the child connects to one of its standard outputs. -/
inductive OutputTarget where
  /-- The pipe. -/
  | pipe
  /-- The file that swallows everything. -/
  | null
deriving DecidableEq

/-- A request of the child before it turns into the command. -/
inductive ChildStep where
  /-- Connect a standard output. -/
  | duplicate (target : OutputTarget) (descriptor : Nat)
  /-- Turn into the command. -/
  | execute (file : Text) (arguments : List Text)
deriving DecidableEq

/-- A run as one of the two processes sees it. -/
inductive Execution where
  /-- The parent: the outcome and the pipe ends it closes, in order. -/
  | parent (result : CommandResult) (closed : List PipeEnd)
  /-- The child: its requests and the code with which it gives up. -/
  | child (steps : List ChildStep) (exitCode : Nat)
deriving DecidableEq

/-- What the caller of a run learns. A child that gives up never returns to it. -/
def Execution.result : Execution → CommandResult
  | .parent result _ => result
  | .child _ _ => {}

namespace CommandScript

/-- The number of octets for which the parent asks the pipe at once. -/
def chunkSize : Nat := 1024

/-- The exit code of a child that could not turn into the command. -/
def notExecuted : Nat := 127

/-- The exit code, once waiting has been repeated after each interruption, and the faults that are
left for the next child. A fault of waiting other than an interruption leaves the code unknown. -/
def wait (s : CommandScript) : Int × List Errno :=
  match s.waitFaults.dropWhile (· == Errno.interrupted) with
  | [] => (s.ending.exitCode, [])
  | _ :: later => (-1, later)

/-- The requests of the child. Arguments end at their first zero octet. -/
def childSteps (s : CommandScript) (hasNull : Bool) (file : Text) (arguments : List Text) :
    List ChildStep :=
  let output := ChildStep.duplicate .pipe 1
  let errors := if hasNull then [ChildStep.duplicate .null 2] else []
  let arguments := (file :: arguments).map Text.untilNul
  match s.duplicateFault with
  | some _ => [output]
  | none => output :: errors ++ [.execute file.untilNul arguments]

/-- The parent's part of a run: it closes the end that it does not need, reads the pipe to its end,
closes it and waits. -/
def parent (s : CommandScript) : Execution × CommandScript :=
  let (contents, output) := s.output.drain chunkSize
  let (exitCode, waitFaults) := s.wait
  (.parent { launched := true, exitCode, output := contents.text } [.writing, .reading],
    { s with output, waitFaults })

/-- Runs a command. `hasNull` says whether the file that swallows everything can be opened. -/
def run (s : CommandScript) (hasNull : Bool) : List Text → Execution × CommandScript
  | [] => (.parent {} [], s)
  | file :: arguments =>
    if s.pipeFault.isSome then (.parent {} [], s)
    else if s.forkFault.isSome then (.parent {} [.reading, .writing], s)
    else if s.inChild then (.child (s.childSteps hasNull file arguments) notExecuted, s)
    else s.parent

end CommandScript

end LocalNet
