import LocalNet.Host.Kernel
import LocalNet.Tool.Interfaces
import LocalNet.Tool.PortCheck
import Std.Internal.UV.TCP
import Std.Internal.UV.UDP

/-!
# The command line

The two tools on the running system. The first argument names the tool.

A tool is a function of a host, so the system is first read into one: the files that a tool may ask
for, the addresses, and the tables of the kernel. What the system says to requests about sockets is
not known beforehand. A tool is therefore run again after each such request, on a host that knows
the outcomes so far, until it makes no request that has not been answered.
-/

namespace LocalNet.Live

open Std.Net Std.Internal.UV

/-! ## Reading of the system -/

/-- The number of a failed request. The sign of a number is no part of it. -/
def errorNumber : IO.Error → Errno
  | .alreadyExists _ code _ | .otherError code _ | .resourceBusy code _ | .resourceVanished code _
  | .unsupportedOperation code _ | .hardwareFault code _ | .unsatisfiedConstraints code _
  | .illegalOperation code _ | .protocolError code _ | .timeExpired code _ | .interrupted _ code _
  | .noFileOrDirectory _ code _ | .invalidArgument _ code _ | .permissionDenied _ code _
  | .resourceExhausted _ code _ | .inappropriateType _ code _ | .noSuchThing _ code _ =>
    code.toInt32.toInt.natAbs
  | .unexpectedEof | .userError _ => Errno.invalidArgument

/-- Reads a file; nothing if it does not exist. -/
def readFile (path : Text) : IO (Option File) := do
  let some name := String.fromUTF8? ⟨path.toArray⟩ | return none
  match ← (IO.FS.readBinFile name).toBaseIO with
  | .ok content => return some { content := content.data.toList }
  | .error e =>
    let number := errorNumber e
    return if number = Errno.noEntry then none else some { readOpenFault := some number }

/-- Reads files. -/
def readFiles (paths : List Text) : IO Files :=
  paths.filterMapM fun path => return (← readFile path).map fun file => (path, file)

/-- The content of a file, empty if it cannot be read. -/
def contentOf (path : String) : IO Text :=
  return ((← readFile (Text.ofString path)).map File.content).getD []

/-- The number of a link, 0 if it is not known. -/
def indexOf (name : Text) : IO Nat :=
  return (((← readFile (Link.attributePath name "ifindex")).bind fun file =>
    Decimal.nat? file.content.trim)).getD 0

/-- An address as a socket keeps it. -/
def socketAddress : IPAddr → SocketAddress
  | .v4 a => .inet a.octets
  | .v6 a =>
    .inet6 (Vector.ofFn fun i : Fin 16 =>
      let segment := a.segments[i.val / 2]
      if i.val % 2 = 0 then (segment >>> 8).toUInt8 else segment.toUInt8)

/-- The record of an address. -/
def addressRecord (a : InterfaceAddress) : AddressRecord where
  label := some (Text.ofString a.name)
  address := some (socketAddress a.address)
  mask := some (socketAddress a.netMask)

/-- The paths of the files that a tool may ask for. -/
def paths (names : List Text) : List Text :=
  let settings : LinuxSettings := {}
  [settings.clientPath, settings.definitionsPath, settings.portStartPath]
    ++ names.flatMap fun name => ["mtu", "flags", "address"].map (Link.attributePath name)

/-- Reads the system into a host. The routing command, if it is asked for, is asked for the given
link. -/
def readHost (routesOf : Text) : IO Host := do
  let names := Kernel.linkNames (← contentOf "/proc/net/dev")
  let status ← contentOf "/proc/self/status"
  let routes ← contentOf "/proc/net/route"
  let addresses ← interfaceAddresses.toBaseIO
  return {
    files := ← readFiles (paths names)
    links := .ok (← names.mapM fun name => return (← indexOf name, name))
    addresses := (addresses.mapError errorNumber).map fun found => found.toList.map addressRecord
    userId := (Kernel.effectiveUser status).getD 1
    capabilities := .ok ((Kernel.effectiveCapabilities status).getD 0)
    command := { output := { segments := [Kernel.defaultRoute routes routesOf] } } }

/-! ## Requests about sockets -/

/-- An open socket. -/
inductive Handle where
  /-- One for connections. -/
  | tcp (socket : TCP.Socket)
  /-- One for datagrams. -/
  | udp (socket : UDP.Socket)

/-- A local endpoint as a socket takes it. -/
def endpoint (a : Address) (port : Nat) : Std.Net.SocketAddress :=
  match a.octets with
  | [b₁, b₂, b₃, b₄] => .v4 ⟨.ofParts b₁ b₂ b₃ b₄, port.toUInt16⟩
  | octets =>
    .v6 ⟨⟨Vector.ofFn fun i : Fin 8 =>
      ((octets.getD (2 * i) 0).toUInt16 <<< 8) ||| (octets.getD (2 * i + 1) 0).toUInt16⟩,
      port.toUInt16⟩

/-- Makes a request about a socket. The options that a probe asks for are set on every socket. -/
def perform (slot : IO.Ref (Option Handle)) : SocketRequest → IO Unit
  | .socket _ .tcp => do slot.set (some (.tcp (← TCP.Socket.new)))
  | .socket _ .udp => do slot.set (some (.udp (← UDP.Socket.new)))
  | .reuseAddress | .dualStack => return
  | .bind address port => do
    match ← slot.get with
    | some (.tcp socket) => socket.bind (endpoint address port)
    | some (.udp socket) => socket.bind (endpoint address port)
    | none => return
  | .listen backlog => do
    match ← slot.get with
    | some (.tcp socket) => socket.listen backlog.toUInt32
    | _ => return
  | .close => slot.set none

/-- The number of requests after which a run is given up: more than any probe makes. -/
def requestLimit : Nat := 16

/-- Runs a tool until each of its requests has been answered by the system. -/
def settle (run : Host → ToolResult × Host) (h : Host) (slot : IO.Ref (Option Handle)) :
    Nat → List SocketCall → IO (ToolResult × Host)
  | 0, answered => return run { h with sockets := .ofCalls answered }
  | fuel + 1, answered => do
    let (result, after) := run { h with sockets := .ofCalls answered }
    let some next := after.calls[answered.length]? | return (result, after)
    let fault ← do
      match ← (perform slot next.request).toBaseIO with
      | .ok () => pure none
      | .error e => pure (some (errorNumber e))
    settle run h slot fuel (answered ++ [⟨next.request, fault⟩])

/-! ## Running of a tool -/

/-- Prints octets. -/
def printTo (stream : IO.FS.Stream) (text : Text) : IO Unit := do
  stream.write ⟨text.toArray⟩
  stream.flush

/-- The line about a record of the log. -/
def logLine (record : Log.Level × Text) : Text :=
  Text.ofString "[" ++ Text.ofString Log.name ++ Text.ofString "] [" ++ Text.ofString record.1.name
    ++ Text.ofString "] " ++ record.2 ++ Text.ofString "\n"

/-- Runs a tool on the system. -/
def runTool (run : Host → ToolResult × Host) (routesOf : Text) : IO UInt32 := do
  let slot ← IO.mkRef none
  let (result, after) ← settle run (← readHost routesOf) slot requestLimit []
  printTo (← IO.getStderr) (after.log.records.flatMap logLine)
  printTo (← IO.getStdout) result.stdout
  printTo (← IO.getStderr) result.stderr
  return result.exitCode.toUInt32

/-- How the tools are called. -/
def usage : Text :=
  Text.ofString "Usage: " ++ Text.ofString Tool.interfaces.name
    ++ Text.ofString " [OPTIONS]\n       " ++ Text.ofString Tool.portCheck.name
    ++ Text.ofString " [OPTIONS]\n"

end LocalNet.Live

section

open LocalNet

/-- Runs the tool that the first argument names. -/
def main (arguments : List String) : IO UInt32 := do
  let texts := arguments.tail.map Text.ofString
  if arguments.head? = some Tool.interfaces.name then
    let known := (Arguments.parse Tool.interfaces.definitions texts []).1
    Live.runTool (Tool.interfaces.run texts) ((known.value? .gateway).getD [])
  else if arguments.head? = some Tool.portCheck.name then
    Live.runTool (Tool.portCheck.run texts) []
  else
    Live.printTo (← IO.getStderr) Live.usage
    return 1

end
