import LocalNet.Network
import LocalNet.Address.Parser
import LocalNet.Fault

/-!
# Reading of networks

The text of a network is an address, a slash and a prefix length in decimal. It stands for two
things: the address as written, and the network that the prefix length cuts out of it.
-/

namespace LocalNet

/-- What the text of a network stands for. -/
structure Cidr where
  /-- The address as written. -/
  address : Address
  /-- The network, with the bits behind the prefix cleared. -/
  network : Network
deriving DecidableEq

namespace Cidr

/-- Reads a prefix length: at most three octets, without leading zeros. -/
def prefixLength? (t : Text) : Option Int :=
  if t.length ≤ 3 ∧ (t.length = 1 ∨ t.head? ≠ some '0'.toUInt8) then Decimal.int32? t else none

/-- The network that an address and a prefix length stand for, if the address has that many bits. -/
def ofPrefix? (address : Address) (ones : Int) : Option Cidr :=
  let mask := Mask.ofPrefix ones (if address.isV4 then 32 else 128)
  if mask.isEmpty then none else some ⟨address, ⟨Network.base ⟨address, mask⟩, mask⟩⟩

/-- Reads the text of a network. -/
def parse? (t : Text) : Option Cidr :=
  match Text.cutFirst? '/'.toUInt8 t with
  | some (before, after) =>
    match Address.parse? before, prefixLength? after with
    | some address, some ones => ofPrefix? address ones
    | _, _ => none
  | none => none

/-- The fault of a text that is not one of a network. -/
def invalid (t : Text) : Fault :=
  { kind := .parse, message := Text.ofString "invalid CIDR address: " ++ t }

/-- Reads the text of a network or says that it is none. -/
def parse (t : Text) : Except Fault Cidr :=
  match parse? t with
  | some cidr => .ok cidr
  | none => .error (invalid t)

end Cidr

end LocalNet
