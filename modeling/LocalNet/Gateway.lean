import LocalNet.Address.Parser
import LocalNet.Host

/-!
# Default gateways

The default gateway of an interface is the third field of what the routing command prints, if the
first field is `default`. Any failure of the command means that no gateway is known.
-/

namespace LocalNet

/-- Whatever runs commands. -/
abbrev Runner := List Text → Host → CommandResult × Host

namespace Runner

/-- The running system. -/
def system : Runner :=
  fun arguments h =>
    let (execution, h) := h.execute arguments
    (execution.result, h)

/-- An outcome that does not depend on the command. -/
def fixed (result : CommandResult) : Runner :=
  fun _ h => (result, h)

end Runner

namespace Gateway

/-- The name of the routing command. -/
def defaultCommand : Text := Text.ofString "ip"

/-- The command that prints the routes of an interface. -/
def query (command name : Text) : List Text :=
  [command, Text.ofString "route", Text.ofString "show", Text.ofString "dev", name]

/-- Reads the gateway from the output of the command. -/
def parse? (output : Text) : Option Address :=
  match output.fields with
  | first :: _ :: third :: _ =>
    if first = Text.ofString "default" then Address.parse? third else none
  | _ => none

/-- The gateway that the outcome of the command shows. -/
def ofResult? (result : CommandResult) : Option Address :=
  if result.launched && result.exitCode == 0 then parse? result.output else none

/-- The default gateway of an interface. -/
def lookup (runner : Runner) (command name : Text) (h : Host) : Option Address × Host :=
  let h := h.record .trace
    (Text.ofString "executing " ++ command ++ Text.ofString " route show dev " ++ name)
  let (result, h) := runner (query command name) h
  (ofResult? result, h)

end Gateway

end LocalNet
