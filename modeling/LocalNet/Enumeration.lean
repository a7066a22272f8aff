import LocalNet.Interface
import LocalNet.Network.Cidr
import LocalNet.Survey

/-!
# Enumeration of interfaces

From a survey to the interfaces at which a program can listen, and the questions asked of them.

- `Survey.interfaces`: every link with a name and an address that is not link-local. An entry that
  is not an address with a mask is a fault, and so is an empty survey;
- `Survey.interfaceOf`: the interface that has an address;
- `Survey.networkOf`: the first network of an interface;
- `Survey.addresses`: every address of every link, link-local ones included. The first entry that is
  not read leaves none.
-/

namespace LocalNet

/-- Whether an enumeration keeps an address: it is not link-local. -/
def Address.isRetained (a : Address) : Bool :=
  !a.isLinkLocal

namespace Entry

/-- The fault of an entry that is not an address with a mask. -/
def shapeFault (link : Link) (e : Entry) : Fault :=
  { kind := .shape
    message := Text.ofString "interface " ++ link.name ++ Text.ofString ": address entry "
      ++ e.toText ++ Text.ofString " is not an address/mask pair" }

/-- The network of an entry that is an address with a mask. -/
def network? (link : Link) (e : Entry) : Except Fault Network :=
  if e.isAddressWithMask then .ok e.network else .error (e.shapeFault link)

end Entry

namespace Listing

/-- The interface of a link with the networks of its retained addresses. -/
def interface (link : Link) (networks : List Network) : Interface where
  name := link.name
  addresses := networks.map Network.address
  networks := networks
  linkAddress := link.linkAddress
  flags := link.flags
  mtu := link.mtu

/-- The interface that a listing describes. There is none if the link has no name or no retained
address. -/
def interface? (l : Listing) : Except Fault (Option Interface) := do
  let context := Text.ofString "failed to get addresses for interface " ++ l.link.name
  let entries ← l.entries.mapError (Fault.wrap context)
  let networks ← entries.mapM (Entry.network? l.link)
  let retained := networks.filter (·.address.isRetained)
  return if l.link.name.isEmpty || retained.isEmpty then none else some (interface l.link retained)

end Listing

namespace Survey

/-- The fault of a survey without links. -/
def noLinks : Fault :=
  { kind := .noInterfaces, message := Text.ofString "couldn't find any legible interface" }

/-- The interfaces of a survey, in its order. -/
def interfaces (s : Survey) : Except Fault (List Interface) := do
  let listings ← s.mapError (Fault.wrap (Text.ofString "couldn't get interfaces"))
  if listings.isEmpty then throw noLinks
  let found ← listings.mapM Listing.interface?
  return found.reduceOption

/-- The name of the first interface that has an address. -/
def interfaceOf (s : Survey) (a : Address) : Option Text :=
  match s.interfaces with
  | .ok interfaces => (interfaces.find? (·.addresses.contains a)).map Interface.name
  | .error _ => none

/-- The first network of the first interface with a name. -/
def networkOf (s : Survey) (name : Text) : Except Fault (Option Network) :=
  s.interfaces.map fun interfaces =>
    (interfaces.find? (·.name == name)).bind fun i => i.networks.head?

end Survey

/-! ## All addresses -/

/-- What the question for all addresses returns. -/
structure AddressList where
  /-- The printed addresses. -/
  texts : List Text := []
  /-- What went wrong, if anything did. -/
  fault : Option Fault := none
deriving DecidableEq

namespace AddressList

/-- Adds the address that is read from the text of each entry. An entry that is not read ends the
search, and what has been found is dropped. -/
def addEntries (found : AddressList) : List Entry → AddressList
  | [] => found
  | e :: rest =>
    match Cidr.parse e.toText with
    | .ok cidr => addEntries { found with texts := found.texts ++ [cidr.address.toText] } rest
    | .error fault => { texts := [], fault := some (fault.wrap (Text.ofString "parsing cidr")) }

/-- Adds the addresses of each listing. A listing without an answer ends the search like an entry
that is not read. -/
def addListings (found : AddressList) : List Listing → AddressList
  | [] => found
  | l :: rest =>
    match l.entries with
    | .ok entries =>
      let found := found.addEntries entries
      if found.fault.isSome then found else addListings found rest
    | .error fault =>
      let context := Text.ofString "getting addresses for \"" ++ l.link.name ++ Text.ofString "\""
      { texts := [], fault := some (fault.wrap context) }

/-- The addresses, or what went wrong. -/
def toExcept (found : AddressList) : Except Fault (List Text) :=
  match found.fault with
  | some fault => .error fault
  | none => .ok found.texts

end AddressList

/-- The addresses of all links, in the order of the survey. -/
def Survey.addresses (s : Survey) : AddressList :=
  match s with
  | .ok listings => AddressList.addListings {} listings
  | .error fault => { fault := some (fault.wrap (Text.ofString "getting network interfaces")) }

end LocalNet
