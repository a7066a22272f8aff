import LocalNet.Platform
import LocalNet.Tool

/-!
# The tool for interfaces

Lists the interfaces with their addresses, or answers one question: which interface has an address,
what the network or the gateway of an interface is, whether its address is static, or what the
broadcast address of a network is. Of several questions the first in that order is answered.
-/

namespace LocalNet.Tool.Interfaces

/-- The keys of the flags. -/
inductive Key where
  /-- The request for help. -/
  | help
  /-- The list is to be JSON. -/
  | json
  /-- The list is to have all networks. -/
  | verbose
  /-- The question for all addresses. -/
  | allAddresses
  /-- The question for the interface of an address. -/
  | byAddress
  /-- The question for a network. -/
  | network
  /-- The question for a gateway. -/
  | gateway
  /-- The question for a static address. -/
  | static
  /-- The question for a broadcast address. -/
  | broadcast
  /-- The level of the log. -/
  | logLevel
deriving DecidableEq

/-- A flag and its explanation. -/
def define (key : Key) (flag : String) (arity : Nat) (summary : String) : FlagDefinition Key :=
  { key, flag := Text.ofString flag, arity, summary := Text.ofString summary }

/-- The flags. -/
def definitions : List (FlagDefinition Key) :=
  [define .help "--help" 0 "Show this help message",
   define .json "--json" 0 "Output in JSON format",
   define .verbose "--verbose" 0 "Show subnets for each interface",
   define .allAddresses "--all-addrs" 0 "List every bound address, unfiltered",
   define .byAddress "--by-ip" 1 "Name the interface that owns an IP",
   define .network "--subnet" 1 "Show the first subnet of an interface",
   define .gateway "--gateway" 1 "Show the default gateway of an interface",
   define .static "--static" 1 "Check whether an interface has a static IP",
   define .broadcast "--broadcast" 1 "Broadcast address of a CIDR (ip/len)",
   define .logLevel "--log-level" 1 "trace|debug|info|warn|error|critical|off"]

/-- The lines about one interface: a summary, and its networks if they are asked for. -/
def describe (verbose : Bool) (i : Interface) : Text :=
  let networks :=
    if verbose then
      i.networks.flatMap fun n =>
        Text.ofString "    subnet " ++ n.toText ++ Text.ofString "  broadcast "
          ++ n.broadcast.toText ++ Text.ofString "\n"
    else []
  Text.ofString "  " ++ i.toText ++ Text.ofString "\n" ++ networks

/-- The list of interfaces for people. -/
def table (verbose : Bool) (interfaces : List Interface) : Text :=
  Text.ofString "=== Network Interfaces (" ++ Decimal.ofNat interfaces.length
    ++ Text.ofString ") ===\n" ++ interfaces.flatMap (describe verbose)

/-- Names the interface that has an address. -/
def runByAddress (text : Text) (h : Host) : ToolResult × Host :=
  match Address.parse? text with
  | none => (.error (Text.ofString "'" ++ text ++ Text.ofString "' is not an IP address"), h)
  | some address =>
    match Source.system.interfaceOf address h with
    | (some name, h) => (.line name, h)
    | (none, h) => (.failure (Text.ofString "No interface has " ++ address.toText), h)

/-- Prints the first network of an interface. -/
def runNetwork (name : Text) (h : Host) : ToolResult × Host :=
  match Source.system.networkOf name h with
  | (some network, h) => (.line network.toText, h)
  | (none, h) => (.failure (Text.ofString "No subnet for " ++ name), h)

/-- Prints the default gateway of an interface. -/
def runGateway (name : Text) (h : Host) : ToolResult × Host :=
  match Gateway.lookup Runner.system Gateway.defaultCommand name h with
  | (some address, h) => (.line address.toText, h)
  | (none, h) => (.failure (Text.ofString "No gateway for " ++ name), h)

/-- Says whether the address of an interface is static. -/
def runStatic (name : Text) (h : Host) : ToolResult × Host :=
  let (check, h) := Platform.default.hasStaticAddress name h
  match check.fault with
  | some fault => (.error fault.toText, h)
  | none =>
    (.line (name ++ Text.ofString (if check.value then ": static" else ": dynamic")), h)

/-- Prints the broadcast address of a network. -/
def runBroadcast (text : Text) : ToolResult :=
  match Cidr.parse text with
  | .ok cidr => .line (Network.broadcast ⟨cidr.address, cidr.network.mask⟩).toText
  | .error fault => .error fault.toText

/-- Lists all addresses. -/
def runAllAddresses (json : Bool) (h : Host) : ToolResult × Host :=
  match Source.system.addresses h with
  | (.error fault, h) => (.error fault.toText, h)
  | (.ok addresses, h) =>
    if json then (.line (Json.strings addresses), h)
    else ({ exitCode := 0, stdout := addresses.flatMap (· ++ Text.ofString "\n") }, h)

/-- Lists the interfaces. -/
def runList (json verbose : Bool) (h : Host) : ToolResult × Host :=
  match Source.system.interfaces h with
  | (.error fault, h) => (.error fault.toText, h)
  | (.ok interfaces, h) =>
    if json then (.line (Interface.listToJson interfaces), h)
    else ({ exitCode := 0, stdout := table verbose interfaces }, h)

/-- Answers the first question among the arguments, or lists the interfaces. -/
def answer (known : Arguments Key) (h : Host) : ToolResult × Host :=
  match known.value? .byAddress, known.value? .network, known.value? .gateway,
    known.value? .static, known.value? .broadcast with
  | some text, _, _, _, _ => runByAddress text h
  | none, some name, _, _, _ => runNetwork name h
  | none, none, some name, _, _ => runGateway name h
  | none, none, none, some name, _ => runStatic name h
  | none, none, none, none, some text => (runBroadcast text, h)
  | none, none, none, none, none =>
    if known.has .allAddresses then runAllAddresses (known.has .json) h
    else runList (known.has .json) (known.has .verbose) h

end LocalNet.Tool.Interfaces

namespace LocalNet.Tool

/-- The tool for interfaces. -/
def interfaces : Tool Interfaces.Key where
  name := "net-ifaces"
  description := "List network interfaces and their addresses, or look up one property."
  definitions := Interfaces.definitions
  help := .help
  logLevel := .logLevel
  answer := Interfaces.answer

end LocalNet.Tool
