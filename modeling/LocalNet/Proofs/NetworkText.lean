import LocalNet.Network.Cidr
import LocalNet.Proofs.Networks

/-!
# What the text of a network stands for

The text of an address, a slash and a prefix length stands for the address and for the network that
the prefix length cuts out of it.

- `Cidr.parse?_toText_eq_some_iff`: the networks whose printed form is read, and as what;
- `Cidr.IsCut`: what an address and a network have to do with each other if a prefix length cuts the
  one out of the other;
- `Cidr.isCut_of_parse`: whatever is read is of this kind.
-/

namespace LocalNet

/-! ## Prefix lengths -/

/-- A numeral of 32 bits is read back. -/
theorem Decimal.int32?_ofNat {n : Nat} (hn : n ≤ 2147483647) : int32? (ofNat n) = some (n : Int) := by
  have hsign : (ofNat n).head? ≠ some '-'.toUInt8 := by
    intro h
    exact absurd (isDigit_of_mem_ofNat (List.mem_of_head? h)) (by decide)
  have hrange : decide (-2147483648 ≤ (n : Int) ∧ (n : Int) ≤ 2147483647) = true := by
    rw [decide_eq_true_iff]
    omega
  rw [int32?, int?, if_neg hsign, nat?_ofNat]
  exact Option.filter_eq_some_iff.mpr ⟨rfl, hrange⟩

theorem Cidr.prefixLength?_ofNat {n : Nat} (hn : n < 1000) :
    prefixLength? (Decimal.ofNat n) = some (n : Int) := by
  rw [prefixLength?, if_pos ⟨Decimal.length_ofNat_le hn, Decimal.canonical_ofNat n⟩]
  exact Decimal.int32?_ofNat (by omega)

/-! ## Printing -/

theorem Address.slash_notMem_toText (a : Address) : '/'.toUInt8 ∉ a.toText := by
  intro hmem
  exact absurd (a.isTextOctet_toText _ hmem) (by decide)

/-- A mask that is printed in full takes more room than a prefix length. -/
theorem Mask.three_lt_length_toText {m : Mask} (h : m.size ≠ 0) : 3 < m.toText.length := by
  rw [toText]
  split
  · next h4 =>
    -- The three dots and a digit are enough.
    obtain ⟨a, b, c, d, hoctets⟩ := List.length_eq_four.mp h4
    have hpos : 1 ≤ (Decimal.ofNat a.toNat).length :=
      List.length_pos_iff.mpr (Decimal.ofNat_ne_nil a.toNat)
    simp [hoctets, Address.dotted, List.intercalate_cons_cons]
    omega
  · next h4 =>
    have h16 : m.octets.length = 16 := by
      have hsize := m.size_cases
      rw [size] at hsize h h4
      omega
    simp [Hex.ofOctets, Hex.octet, h16]

namespace Network

variable {n : Network} {k : Nat}

section Printing

variable (hset : n.address.size ≠ 0) (hmask : n.mask.isEmpty = false)

include hset hmask

/-- What applies of a mask is a mask. -/
theorem octets_ofOctets_alignedMask :
    (Mask.ofOctets n.alignedMask).octets = n.alignedMask := by
  have haddress : n.address.size = 0 ∨ n.address.size = 4 ∨ n.address.size = 16 :=
    n.address.length_octets
  have hne := n.mask.isEmpty_eq_false_iff.mp hmask
  have hcases := n.mask.size_cases
  have hlength := n.length_alignedMask
  exact Mask.octets_ofOctets (by omega)

theorem size_ofOctets_alignedMask_ne : (Mask.ofOctets n.alignedMask).size ≠ 0 := by
  have hne := n.mask.isEmpty_eq_false_iff.mp hmask
  have hlength := n.length_alignedMask
  rw [Mask.size, octets_ofOctets_alignedMask hset hmask]
  omega

theorem prefixLength?_alignedMask_iff :
    (Mask.ofOctets n.alignedMask).prefixLength? = some k ↔ n.HasOnes k := by
  have hoctets := octets_ofOctets_alignedMask hset hmask
  rw [Mask.prefixLength?_eq_some_iff, Mask.bits, Mask.size, hoctets, HasOnes]
  refine and_iff_right ?_
  rw [← hoctets]
  exact size_ofOctets_alignedMask_ne hset hmask

/-- A mask of ones and then zeros is printed by the number of its ones. -/
theorem toText_of_hasOnes (h : n.HasOnes k) :
    n.toText = n.address.toText ++ '/'.toUInt8 :: Decimal.ofNat k := by
  have hread := (prefixLength?_alignedMask_iff hset hmask).mpr h
  have hslash : Text.ofString "/" = ['/'.toUInt8] := rfl
  rw [toText, hmask]
  simp only [hread, hslash]
  rw [List.append_assoc]
  rfl

/-- Other masks are printed in full, as far as they apply. -/
theorem toText_of_not_canonical (h : ¬ n.Canonical) :
    n.toText = n.address.toText ++ '/'.toUInt8 :: (Mask.ofOctets n.alignedMask).toText := by
  have hread : (Mask.ofOctets n.alignedMask).prefixLength? = none := by
    rw [Option.eq_none_iff_forall_ne_some]
    intro k hk
    exact h ⟨k, (prefixLength?_alignedMask_iff hset hmask).mp hk⟩
  have hempty : (Mask.ofOctets n.alignedMask).isEmpty = false :=
    (Mask.isEmpty_eq_false_iff _).mpr (size_ofOctets_alignedMask_ne hset hmask)
  have hslash : Text.ofString "/" = ['/'.toUInt8] := rfl
  rw [toText, hmask]
  simp only [hread, hempty, hslash]
  rw [List.append_assoc]
  rfl

end Printing

end Network

namespace Cidr

variable {a : Address} {k : Nat} {t : Text} {c : Cidr}

theorem parse_eq_ok_iff : parse t = .ok c ↔ parse? t = some c := by
  rw [parse]
  cases parse? t <;> simp

/-! ## Cutting -/

/-- An address and the network of its first `k` bits. -/
def cut (a : Address) (k : Nat) : Cidr :=
  let mask := Mask.ofPrefix k (8 * a.size : Nat)
  ⟨a, ⟨Network.base ⟨a, mask⟩, mask⟩⟩

/-- A prefix length that fits the address cuts a network out of it. -/
theorem ofPrefix?_eq_some_iff (ha : a.Built) {ones : Int} : ofPrefix? a ones = some c ↔
    ∃ k : Nat, ones = k ∧ k ≤ 8 * a.size ∧ cut a k = c := by
  have hsize := ha.size_cases
  -- The number of bits is read off the family, and is eight for each octet.
  have hbits : (if a.isV4 = true then 32 else 128 : Int) = (8 * a.size : Nat) := by
    rcases hsize with h | h
    · rw [if_pos (Address.isV4_iff.mpr h), h]
      rfl
    · have hv4 : ¬ a.isV4 = true := by
        rw [Address.isV4_iff]
        omega
      rw [if_neg hv4, h]
      rfl
  have hvalid := Mask.isEmpty_ofPrefix_iff hsize ones
  simp only [ofPrefix?, hbits]
  constructor
  · intro h
    split at h
    · cases h
    · next hempty =>
      obtain ⟨hpos, hle⟩ := hvalid.mp (Bool.eq_false_iff.mpr hempty)
      obtain ⟨k, rfl⟩ := Int.eq_ofNat_of_zero_le hpos
      exact ⟨k, rfl, Int.ofNat_le.mp hle, Option.some.inj h⟩
  · rintro ⟨k, rfl, hk, rfl⟩
    rw [hvalid.mpr ⟨Int.natCast_nonneg k, Int.ofNat_le.mpr hk⟩]
    rfl

theorem hasPrefix_mask (ha : a.Built) (hk : k ≤ 8 * a.size) :
    (Network.mk a (Mask.ofPrefix k (8 * a.size : Nat))).HasPrefix k := by
  have hsize := ha.size_cases
  have haligned := Network.alignedMask_of_size_mask
    (n := ⟨a, Mask.ofPrefix k (8 * a.size : Nat)⟩) (Mask.size_ofPrefix hsize hk)
  refine ⟨?_, hk, ?_⟩
  · change a.size ≠ 0
    omega
  · rw [haligned]
    exact Mask.bits_ofPrefix hsize hk

theorem hasPrefix_cut (ha : a.Built) (hk : k ≤ 8 * a.size) : (cut a k).network.HasPrefix k :=
  (hasPrefix_mask ha hk).of_size (Network.size_base _)

/-- The printed form of a network is read exactly if what applies of its mask is ones and then
zeros, as the address and what these ones cut out of it. -/
theorem parse?_toText_eq_some_iff {n : Network} (ha : n.address.Built)
    (hmask : n.mask.isEmpty = false) :
    parse? n.toText = some c ↔ ∃ k, n.HasOnes k ∧ cut n.address k = c := by
  have hset : n.address.size ≠ 0 := by
    have hsize := ha.size_cases
    omega
  have hslash := n.address.slash_notMem_toText
  by_cases hcanonical : n.Canonical
  · obtain ⟨k, hones⟩ := hcanonical
    have hk : k ≤ 8 * n.address.size := by
      have hle := hones.le_length
      have hlength := n.length_alignedMask
      omega
    have hsmall : k < 1000 := by
      have hsize := ha.size_cases
      omega
    have hparse : parse? n.toText = some (cut n.address k) := by
      rw [parse?, Network.toText_of_hasOnes hset hmask hones, Text.cutFirst?_append_cons hslash]
      simp only [ha.parse?_toText, prefixLength?_ofNat hsmall]
      exact (ofPrefix?_eq_some_iff ha).mpr ⟨k, rfl, hk, rfl⟩
    rw [hparse, Option.some.injEq]
    constructor
    · intro h
      exact ⟨k, hones, h⟩
    · rintro ⟨k', hones', rfl⟩
      -- The ones of a mask have one number only.
      have hread := (Network.prefixLength?_alignedMask_iff hset hmask).mpr hones
      rw [(Network.prefixLength?_alignedMask_iff hset hmask).mpr hones', Option.some.injEq] at hread
      rw [hread]
  · have hlong := Mask.three_lt_length_toText (Network.size_ofOctets_alignedMask_ne hset hmask)
    have hrefused : prefixLength? (Mask.ofOctets n.alignedMask).toText = none := by
      rw [prefixLength?, if_neg fun h => Nat.not_lt.mpr h.1 hlong]
    have hparse : parse? n.toText = none := by
      rw [parse?, Network.toText_of_not_canonical hset hmask hcanonical,
        Text.cutFirst?_append_cons hslash]
      simp only [ha.parse?_toText, hrefused]
    rw [hparse]
    constructor
    · intro h
      cases h
    · rintro ⟨k, hones, -⟩
      exact absurd ⟨k, hones⟩ hcanonical

/-- The printed form of a network with a prefix length is read as the address and what the prefix
length cuts out of it. -/
theorem parse?_toText {n : Network} (ha : n.address.Built) (h : n.HasPrefix k) :
    parse? n.toText = some (cut n.address k) :=
  (parse?_toText_eq_some_iff ha h.isEmpty_mask).mpr ⟨k, h.hasOnes, rfl⟩

/-! ## Meaning -/

/-- What an address and a network have to do with each other if the network consists of the
addresses with the same first `k` bits. -/
structure IsCut (c : Cidr) (k : Nat) : Prop where
  /-- The mask has as many octets as the address. -/
  size_mask : c.network.mask.size = c.address.size
  /-- The mask has the prefix length. -/
  prefixLength?_mask : c.network.mask.prefixLength? = some k
  /-- The network's address has zeros behind the prefix. -/
  bits_base : c.network.address.bits =
    c.address.bits.take k ++ List.replicate (8 * c.address.size - k) false
  /-- The network's address is normalized. -/
  normalized_base : c.network.address.Normalized
  /-- The network's address has the family of the address. -/
  family_base : c.network.address.family = c.address.family
  /-- The network consists of the addresses that agree in the prefix. -/
  contains_iff : ∀ x, c.network.contains x = true ↔
    x.family = c.address.family ∧ x.bits.take k = c.address.bits.take k
  /-- The address lies in the network. -/
  contains_address : c.network.contains c.address = true
  /-- So does the network's address. -/
  contains_base : c.network.contains c.network.address = true
  /-- So does the broadcast address. -/
  contains_broadcast : c.network.contains c.network.broadcast = true
  /-- The broadcast address is the same for the address as for the network's. -/
  broadcast_eq : Network.broadcast ⟨c.address, c.network.mask⟩ = c.network.broadcast
  /-- What lies in the network lies between its address and its broadcast address. -/
  between : ∀ x, c.network.contains x = true →
    c.network.address.octets ≤ x.octets ∧ x.octets ≤ c.network.broadcast.octets
  /-- The printed form of the network is read as its address and the network. -/
  parse_toText : parse c.network.toText = .ok ⟨c.network.address, c.network⟩

/-- Cutting the network's address again changes nothing. -/
theorem cut_address_cut (ha : a.Built) (hk : k ≤ 8 * a.size) :
    cut (cut a k).network.address k = ⟨(cut a k).network.address, (cut a k).network⟩ := by
  have hmask := hasPrefix_mask ha hk
  have hsize : (cut a k).network.address.size = a.size := Network.size_base _
  -- The network's address lies in the network, so that it is its own base.
  have hbase := (hmask.base_eq_and_broadcast_eq hmask.contains_base).1
  change Network.base ⟨(cut a k).network.address, (cut a k).network.mask⟩ =
    (cut a k).network.address at hbase
  have hcut : cut (cut a k).network.address k = ⟨(cut a k).network.address,
      ⟨Network.base ⟨(cut a k).network.address, (cut a k).network.mask⟩,
        (cut a k).network.mask⟩⟩ := by
    rw [cut, hsize]
    rfl
  rw [hcut, hbase]

/-- A prefix length that fits the address cuts a network out of it. -/
theorem isCut_cut (ha : a.Built) (hk : k ≤ 8 * a.size) : (cut a k).IsCut k := by
  have hsize := ha.size_cases
  have hsizeMask : (cut a k).network.mask.size = a.size := Mask.size_ofPrefix hsize hk
  have hmask := hasPrefix_mask ha hk
  have hnetwork := hasPrefix_cut ha hk
  have hfamily : (cut a k).network.address.family = a.family :=
    Address.family_eq_iff.mpr (Network.size_base _)
  have htake : (cut a k).network.address.bits.take k = a.bits.take k := hmask.take_bits_base
  have hcontains (x : Address) : (cut a k).network.contains x = true ↔
      x.family = a.family ∧ x.bits.take k = a.bits.take k := by
    rw [hnetwork.contains_iff, hfamily, htake]
  -- The address lies in the network, so that base and broadcast address are common to both.
  have haddress : (cut a k).network.contains a = true := (hcontains a).mpr ⟨rfl, rfl⟩
  obtain ⟨hbase, hbroadcast⟩ := hnetwork.base_eq_and_broadcast_eq haddress
  have hnormal : (cut a k).network.address.Normalized :=
    hmask.normalized_base (Address.built_iff.mp ha).1
  have hset : (cut a k).network.address.Built := by
    refine Address.built_iff.mpr ⟨hnormal, fun hunset => hnetwork.size_ne ?_⟩
    rw [hunset]
    rfl
  constructor
  case size_mask => exact hsizeMask
  case prefixLength?_mask =>
    rw [Mask.prefixLength?_eq_some_iff, hsizeMask]
    refine ⟨by omega, ?_⟩
    exact Mask.bits_ofPrefix hsize hk
  case bits_base => exact hmask.bits_base
  case normalized_base => exact hnormal
  case family_base => exact hfamily
  case contains_iff => exact hcontains
  case contains_address => exact haddress
  case contains_base => exact hnetwork.covered.contains_address
  case contains_broadcast => exact hnetwork.covered.contains_broadcast
  case broadcast_eq => exact hbroadcast
  case between =>
    intro x hx
    obtain ⟨hle, hle'⟩ := hnetwork.between hx
    rw [← hbase] at hle
    exact ⟨hle, hle'⟩
  case parse_toText =>
    rw [parse_eq_ok_iff, parse?_toText hset hnetwork, cut_address_cut ha hk]

/-- What the text of a network stands for: the address before the first slash, and the network that
the prefix length behind it cuts out of this address. -/
theorem isCut_of_parse (h : parse t = .ok c) : ∃ (before after : Text) (k : Nat),
    t = before ++ Text.ofString "/" ++ after ∧ '/'.toUInt8 ∉ before ∧
      Address.parse? before = some c.address ∧ prefixLength? after = some (k : Int) ∧
      c.IsCut k := by
  have hparse := parse_eq_ok_iff.mp h
  unfold parse? at hparse
  split at hparse
  · next before after hcut =>
    obtain ⟨rfl, hslash⟩ := Text.cutFirst?_eq_some_iff.mp hcut
    split at hparse
    · next a ones hread hlength =>
      have ha := Address.Built.of_parse? hread
      obtain ⟨k, rfl, hk, rfl⟩ := (ofPrefix?_eq_some_iff ha).mp hparse
      refine ⟨before, after, k, ?_, hslash, hread, hlength, isCut_cut ha hk⟩
      rw [List.append_assoc]
      rfl
    · cases hparse
  · cases hparse

/-- An IPv4 address in the notation of IPv6, and a prefix length that divides an octet. -/
theorem isCut_of_parse_mapped :
    let t := Text.ofString "::ffff:192.0.2.77/26"
    let c : Cidr := ⟨Address.v4 192 0 2 77, ⟨Address.v4 192 0 2 64, Mask.ofPrefix 26 32⟩⟩
    parse t = .ok c ∧ c.IsCut 26 ∧ c.network.toText = Text.ofString "192.0.2.64/26" := by
  have hparse : parse (Text.ofString "::ffff:192.0.2.77/26") =
      .ok ⟨Address.v4 192 0 2 77, ⟨Address.v4 192 0 2 64, Mask.ofPrefix 26 32⟩⟩ := by
    rfl
  obtain ⟨before, after, k, -, -, -, -, hcut⟩ := isCut_of_parse hparse
  have hk : some 26 = some k := hcut.prefixLength?_mask
  cases hk
  exact ⟨hparse, hcut, rfl⟩

end Cidr

end LocalNet
