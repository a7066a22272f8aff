import LocalNet.Address.Printer
import LocalNet.Bits

/-!
# Network masks

A mask is empty, four octets or sixteen octets. It is canonical if its one bits precede its zero
bits; the number of its one bits is then its prefix length.

- `Mask.ofPrefix`: the canonical mask of a prefix length;
- `Mask.prefixLength?`: the prefix length of a canonical mask;
- `Mask.aligned`: the octets of a mask that apply to an address of a given size;
- `Mask.classful`: the mask that an IPv4 address implies by its first octet.
-/

namespace LocalNet

/-- A mask: no octets, four or sixteen. -/
structure Mask where
  /-- The octets of the mask, most significant first. -/
  octets : List UInt8
  /-- The number of octets is 0, 4 or 16. -/
  length_octets : octets.length ∈ [0, 4, 16]
deriving DecidableEq

namespace Mask

/-- The mask that says nothing. -/
def empty : Mask :=
  ⟨[], by simp⟩

instance : Inhabited Mask := ⟨empty⟩

/-- The mask with the given octets, empty unless there are four or sixteen. -/
def ofOctets (octets : List UInt8) : Mask :=
  if h4 : octets.length = 4 then ⟨octets, by simp [h4]⟩
  else if h16 : octets.length = 16 then ⟨octets, by simp [h16]⟩
  else empty

/-- The mask of `bits` bits of which the first `ones` are one. It is empty unless `bits` is 32 or
128 and `ones` lies between 0 and `bits`. -/
def ofPrefix (ones bits : Int) : Mask :=
  if (bits = 32 ∨ bits = 128) ∧ 0 ≤ ones ∧ ones ≤ bits then
    ofOctets ((List.range (bits.toNat / 8)).map fun i => Bits.leadingOnes (ones.toNat - 8 * i))
  else empty

/-- The number of octets: 0, 4 or 16. -/
def size (m : Mask) : Nat :=
  m.octets.length

/-- Whether the mask says nothing. -/
def isEmpty (m : Mask) : Bool :=
  m.octets.isEmpty

/-- The number of leading one bits, if the mask is not empty and all other bits are zero. -/
def prefixLength? (m : Mask) : Option Nat :=
  let bits := Bits.ofOctets m.octets
  let ones := (bits.takeWhile id).length
  if !m.isEmpty && (bits.drop ones).all (!·) then some ones else none

/-- The printed form: four decimal numerals with dots, or thirty-two hexadecimal digits. -/
def toText (m : Mask) : Text :=
  if m.size = 4 then Address.dotted m.octets else Hex.ofOctets m.octets

/-- The octets of the mask that apply to an address of `size` octets. Of a mask of sixteen octets
the last four apply to an IPv4 address; otherwise mask and address are lined up at their first
octets. -/
def aligned (m : Mask) (size : Nat) : List UInt8 :=
  if size = 4 ∧ m.size = 16 then m.octets.drop 12 else m.octets.take size

/-- The mask that an IPv4 address implies: 8 bits if its first octet is below 128, 16 if it is
below 192 and 24 otherwise. Other addresses imply none. -/
def classful (a : Address) : Mask :=
  match a.family, a.octets with
  | .v4, first :: _ =>
    if first < 0x80 then ofPrefix 8 32 else if first < 0xc0 then ofPrefix 16 32 else ofPrefix 24 32
  | _, _ => empty

end Mask

end LocalNet
