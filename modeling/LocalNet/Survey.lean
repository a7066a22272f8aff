import LocalNet.Fault
import LocalNet.Interface.Flags
import LocalNet.Network

/-!
# Surveys

A survey is what a system says about its interfaces before anything is filtered: the links in the
order of the kernel, and for each of them its address entries or the fault of asking for them.
Either everything is missing, because the links could not be listed, or only some entries are.
-/

namespace LocalNet

/-- A link as the system lists it. -/
structure Link where
  /-- The name. -/
  name : Text
  /-- The number by which the kernel knows the link. -/
  index : Nat := 0
  /-- The largest packet, 0 if it is not known. -/
  mtu : Int32 := 0
  /-- The link-layer address; empty if there is none. -/
  linkAddress : List UInt8 := []
  /-- The flags. -/
  flags : Flags := {}
deriving DecidableEq

/-- An address entry of a link. -/
structure Entry where
  /-- The address and its mask. -/
  network : Network
  /-- What the entry looked like, if it is not an address with a mask. -/
  other : Option Text := none
deriving DecidableEq

namespace Entry

/-- The printed form of an entry: the network, or what it looked like. -/
def toText (e : Entry) : Text :=
  e.other.getD e.network.toText

/-- Whether the entry is a set address with a mask. -/
def isAddressWithMask (e : Entry) : Bool :=
  e.other.isNone && !e.network.address.isUnset && !e.network.mask.isEmpty

end Entry

/-- A link and its address entries. -/
structure Listing where
  /-- The link. -/
  link : Link
  /-- The entries in the order of the system, or why there are none. -/
  entries : Except Fault (List Entry)

/-- What a system says about its interfaces. -/
abbrev Survey := Except Fault (List Listing)

end LocalNet
