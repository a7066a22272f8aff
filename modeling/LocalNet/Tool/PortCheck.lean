import LocalNet.Probe
import LocalNet.Tool

/-!
# The tool for ports

Says whether a local port is available or in use, or whether this process may bind privileged ports.
-/

namespace LocalNet.Tool.PortCheck

/-- The keys of the flags. -/
inductive Key where
  /-- The request for help. -/
  | help
  /-- The port. -/
  | port
  /-- The transport. -/
  | transport
  /-- The address. -/
  | address
  /-- The question for privileged ports. -/
  | privileged
  /-- The level of the log. -/
  | logLevel
deriving DecidableEq

/-- A flag and its explanation. -/
def define (key : Key) (flag : String) (arity : Nat) (summary : String) : FlagDefinition Key :=
  { key, flag := Text.ofString flag, arity, summary := Text.ofString summary }

/-- The flags. -/
def definitions : List (FlagDefinition Key) :=
  [define .help "--help" 0 "Show this help message",
   define .port "--port" 1 "Port to probe",
   define .transport "--proto" 1 "tcp (default) or udp",
   define .address "--ip" 1 "Local address (default: all addresses)",
   define .privileged "--privileged" 0 "Report privileged port capability",
   define .logLevel "--log-level" 1 "trace|debug|info|warn|error|critical|off"]

/-- The description of the tool. -/
def description : String :=
  "Check whether a local port can be bound, or whether privileged ports are allowed."

/-- The name of the tool. -/
def name : String := "net-portcheck"

/-- Ports below this one are privileged. -/
def privilegedLimit : Nat := 1024

/-- Says whether privileged ports may be bound. -/
def runPrivileged (h : Host) : ToolResult × Host :=
  let (check, h) := Platform.default.mayBindPrivileged h
  match check.fault with
  | some fault => (.error fault.toText, h)
  | none =>
    let verdict := if check.value then "allowed" else "NOT allowed"
    (.line (Text.ofString "Privileged ports (<" ++ Decimal.ofNat privilegedLimit
      ++ Text.ofString "): " ++ Text.ofString verdict), h)

/-- How the tool calls an endpoint: a star stands for all addresses. -/
def place (transport : Text) (address : Address) (port : Int) : Text :=
  let host := if address.isUnset then Text.ofString "*" else address.toText
  transport ++ Text.ofString " " ++ host ++ Text.ofString ":" ++ Decimal.ofInt port

/-- Says whether a port is available. -/
def runCheck (transport : Text) (address : Address) (port : Int) (h : Host) : ToolResult × Host :=
  let (fault, h) := Probe.check Platform.default transport address port h
  match fault with
  | none => (.line (place transport address port ++ Text.ofString ": available"), h)
  | some fault =>
    if fault.isAddressInUse Platform.default then
      ({ exitCode := 1
         stdout := place transport address port ++ Text.ofString ": in use\n" }, h)
    else (.error fault.toText, h)

/-- What a port check is to check. -/
structure Request where
  /-- The port. -/
  port : Int
  /-- The name of the transport. -/
  transport : Text
  /-- The address, unset for all addresses. -/
  address : Address

/-- Reads the port, the transport and the address from the arguments, in this order. -/
def request (portText : Text) (known : Arguments Key) : Except Text Request := do
  let port ← (Arguments.port portText).mapError ArgumentError.message
  let transport := (known.value? .transport).getD (Text.ofString "tcp")
  if (Transport.ofText? transport).isNone then
    throw (Text.ofString "unknown protocol '" ++ transport ++ Text.ofString "'")
  match known.value? .address with
  | none => return { port, transport, address := Address.unset }
  | some text =>
    match Address.parse? text with
    | some address => return { port, transport, address }
    | none => throw (Text.ofString "'" ++ text ++ Text.ofString "' is not an IP address")

/-- Answers the question for privileged ports, or checks the port among the arguments. -/
def answer (known : Arguments Key) (h : Host) : ToolResult × Host :=
  if known.has .privileged then runPrivileged h
  else
    match known.value? .port with
    | none =>
      ({ exitCode := 1
         stdout := Arguments.usage (Text.ofString name) (Text.ofString description)
           definitions }, h)
    | some portText =>
      match request portText known with
      | .ok r => runCheck r.transport r.address r.port h
      | .error message => (.error message, h)

end LocalNet.Tool.PortCheck

namespace LocalNet.Tool

/-- The tool for ports. -/
def portCheck : Tool PortCheck.Key where
  name := PortCheck.name
  description := PortCheck.description
  definitions := PortCheck.definitions
  help := .help
  logLevel := .logLevel
  answer := PortCheck.answer

end LocalNet.Tool
