import LocalNet.Mask

/-!
# Networks

A network is an address with a mask. The address may have bits where the mask has zeros: the network
of an interface keeps the interface's own address.

- `Network.contains`: whether an address agrees with the network's where the mask has ones;
- `Network.broadcast`: the address with all bits set where the mask has zeros;
- `Network.base`: the address with all bits cleared there;
- `Network.toText`: the printed form.
-/

namespace LocalNet

/-- An address and a mask. -/
structure Network where
  /-- An address of the network. -/
  address : Address
  /-- The mask, which may be empty. -/
  mask : Mask
deriving DecidableEq

namespace Network

instance : Inhabited Network := ⟨⟨Address.unset, Mask.empty⟩⟩

/-- The octets of the mask that apply to the network's address. -/
def alignedMask (n : Network) : List UInt8 :=
  n.mask.aligned n.address.size

/-- Whether an address lies in the network: it has the network's family and agrees with its address
wherever the mask has ones. Without a mask for every octet nothing lies in the network. -/
def contains (n : Network) (a : Address) : Bool :=
  !n.mask.isEmpty && a.family == n.address.family && n.alignedMask.length == n.address.size &&
    n.address.octets.zipWith (· &&& ·) n.alignedMask == a.octets.zipWith (· &&& ·) n.alignedMask

/-- The network's address with its octets changed by those of the mask. -/
def combine (f : UInt8 → UInt8 → UInt8) (n : Network) : Address where
  octets := Bits.onCommonStart f n.address.octets n.alignedMask
  length_octets := by simpa using n.address.length_octets

/-- The address with all bits set where the mask has zeros. Without a mask the classful one applies;
octets that the mask does not reach stay. -/
def broadcast (n : Network) : Address :=
  let mask := if n.mask.isEmpty then Mask.classful n.address else n.mask
  Network.combine (fun b m => b ||| ~~~m) ⟨n.address, mask⟩

/-- The address with all bits cleared where the mask has zeros. -/
def base (n : Network) : Address :=
  n.combine (· &&& ·)

/-- The printed form: the address, a slash and the prefix length. A mask that is not canonical is
printed in full; without a mask only the address is printed. -/
def toText (n : Network) : Text :=
  if n.mask.isEmpty then n.address.toText
  else
    let aligned := Mask.ofOctets n.alignedMask
    let length :=
      match aligned.prefixLength? with
      | some ones => Decimal.ofNat ones
      | none => if aligned.isEmpty then n.mask.toText else aligned.toText
    n.address.toText ++ Text.ofString "/" ++ length

end Network

end LocalNet
