import LocalNet.Arguments
import LocalNet.Host

/-!
# Tools

A tool reads its arguments, asks the host and prints. What all tools do alike is here: an argument
out of place gives an error and the usage text, a request for help the usage text alone, and the
level of the log is set before anything else is done.
-/

namespace LocalNet

/-- What a tool leaves behind. -/
structure ToolResult where
  /-- The exit code. -/
  exitCode : Nat
  /-- What was printed. -/
  stdout : Text := []
  /-- What was printed about errors. -/
  stderr : Text := []
deriving DecidableEq

namespace ToolResult

/-- A success that prints a line. -/
def line (text : Text) : ToolResult :=
  { exitCode := 0, stdout := text ++ Text.ofString "\n" }

/-- A failure that prints a line about it. -/
def failure (text : Text) : ToolResult :=
  { exitCode := 1, stderr := text ++ Text.ofString "\n" }

/-- A failure that prints an error. -/
def error (text : Text) : ToolResult :=
  failure (Text.ofString "Error: " ++ text)

end ToolResult

/-- A tool: its name, its flags, and what it does when it knows its arguments. -/
structure Tool (κ : Type) where
  /-- The name. -/
  name : String
  /-- What the tool is for. -/
  description : String
  /-- The flags. -/
  definitions : List (FlagDefinition κ)
  /-- The key of the request for help. -/
  help : κ
  /-- The key of the level of the log. -/
  logLevel : κ
  /-- What the tool does. -/
  answer : Arguments κ → Host → ToolResult × Host

namespace Tool

variable {κ : Type} [DecidableEq κ]

/-- The usage text of a tool. -/
def usage (t : Tool κ) : Text :=
  Arguments.usage (Text.ofString t.name) (Text.ofString t.description) t.definitions

/-- Runs a tool. -/
def run (t : Tool κ) (arguments : List Text) (h : Host) : ToolResult × Host :=
  match Arguments.parse t.definitions arguments [] with
  | (_, some error) =>
    ({ exitCode := 1
       stdout := t.usage
       stderr := Text.ofString "Error: " ++ error.message ++ Text.ofString "\n\n" }, h)
  | (known, none) =>
    if known.has t.help then ({ exitCode := 0, stdout := t.usage }, h)
    else
      match known.value? t.logLevel with
      | none => t.answer known h
      | some level =>
        match h.log.setLevel level with
        | (true, log) => t.answer known { h with log }
        | (false, _) =>
          (.error (Text.ofString "unknown log level '" ++ level ++ Text.ofString "'"), h)

/-- Runs a tool as a process of its own: arguments end at their first zero octet, the threshold of
the log is the usual one at the start, and the threshold of before stands again at the end. -/
def runAsProcess (t : Tool κ) (arguments : List Text) (h : Host) : ToolResult × Host :=
  let start : Log := { levelOf := h.log.levelOf, records := h.log.records }
  let (result, after) := t.run (arguments.map Text.untilNul) { h with log := start }
  (result, { after with log := { after.log with threshold := h.log.threshold } })

end Tool

end LocalNet
