import LocalNet.Proofs.Networks

/-!
# Broadcast addresses and the normal form

The broadcast address is made in place, octet by octet. If filling happens to leave eighty zeros and
sixteen ones in front, the sixteen octets stand for an IPv4 address without being replaced by it:
the broadcast address of `::/80` is `::ffff:255.255.255.255`, which is read back as
`255.255.255.255`.

- `Network.FillsMapped`: the addresses and masks with which this happens;
- `Network.broadcast_not_normalized`: it does happen;
- `Network.broadcast_read_back_iff`: with no others.
-/

namespace LocalNet.Network

variable {n : Network}

/-- The first eighty bits of the address are zero and stay so under the mask. Each of the next
sixteen is one or becomes one. -/
def FillsMapped (n : Network) : Prop :=
  (∀ k < 80, n.address.bits[k]? = some false ∧ n.mask.bits[k]? = some true) ∧
    ∀ k, 80 ≤ k → k < 96 → n.address.bits[k]? = some true ∨ n.mask.bits[k]? = some false

/-- All of a mask applies to an IPv6 address, and no mask stands in for an empty one. -/
theorem octets_broadcast_of_v6 (hsize : n.address.size = 16) : n.broadcast.octets =
    Bits.onCommonStart (fun b m => b ||| ~~~m) n.address.octets n.mask.octets := by
  have haligned : n.alignedMask = n.mask.octets := by
    have hle : n.mask.octets.length ≤ 16 := by
      rcases n.mask.size_cases with h | h | h <;> rw [Mask.size] at h <;> omega
    rw [alignedMask, Mask.aligned, hsize, if_neg (by omega), List.take_of_length_le hle]
  have hfill : n.fillMask = n.mask := by
    have hv6 : n.address.family = .v6 := by simp [Address.family, hsize]
    unfold fillMask
    split
    · next hempty =>
      rw [Mask.classful, hv6, ← n.mask.ofOctets_octets, List.isEmpty_iff.mp hempty]
      rfl
    · rfl
  rw [broadcast_eq_combine, hfill, octets_combine, haligned]

/-- The bits of the broadcast address of an IPv6 network. -/
theorem getElem?_bits_broadcast (hsize : n.address.size = 16) (k : Nat) : n.broadcast.bits[k]? =
    n.address.bits[k]?.map fun b => (n.mask.bits[k]?.map fun m => b || !m).getD b := by
  rw [Address.bits, octets_broadcast_of_v6 hsize, Bits.ofOctets_onCommonStart Bits.bitwise_fill]
  exact Bits.getElem?_zipWith_append_drop _ _ k

theorem FillsMapped.size_address (h : n.FillsMapped) : n.address.size = 16 := by
  obtain ⟨hlt, -⟩ := List.getElem?_eq_some_iff.mp (h.1 79 (by decide)).1
  have hlength := n.address.length_octets
  rw [Address.length_bits] at hlt
  rw [Address.size] at hlt ⊢
  omega

theorem FillsMapped.size_mask (h : n.FillsMapped) : n.mask.size = 16 := by
  obtain ⟨hlt, -⟩ := List.getElem?_eq_some_iff.mp (h.1 79 (by decide)).2
  have hsize := n.mask.size_cases
  rw [Mask.length_bits] at hlt
  omega

/-- Filling makes a normalized IPv6 address stand for an IPv4 address only if the mask reaches all of
it. A shorter mask leaves the sixteen ones alone and can only set bits before them, so that the
address itself would stand for an IPv4 address. -/
theorem size_mask_of_isMapped_broadcast (hsize : n.address.size = 16)
    (hnormal : n.address.Normalized) (hmapped : Address.isMapped n.broadcast.octets = true) :
    n.mask.size = 16 := by
  obtain ⟨hzeros, hones⟩ := Address.isMapped_iff.mp hmapped
  change ∀ k < 80, n.broadcast.bits[k]? = some false at hzeros
  change ∀ k, 80 ≤ k → k < 96 → n.broadcast.bits[k]? = some true at hones
  by_contra hshort
  refine hnormal ⟨Address.isV6_iff.mpr hsize, Address.isMapped_iff.mpr ⟨?_, ?_⟩⟩
  · -- A zero of the broadcast address is one of the address, whether or not the mask reaches it.
    intro k hk
    change n.address.bits[k]? = some false
    have hzero := hzeros k hk
    obtain ⟨b, hb⟩ := Address.exists_bit (a := n.address) (k := k) (by omega)
    rw [getElem?_bits_broadcast hsize, hb] at hzero
    rw [hb]
    cases hm : n.mask.bits[k]? with
    | none => simpa [hm] using hzero
    | some m =>
      rw [hm] at hzero
      simp only [Option.map_some, Option.getD_some, Option.some.injEq, Bool.or_eq_false_iff] at hzero
      rw [hzero.1]
  · -- The mask has 32 bits at most, so that the sixteen ones are out of its reach.
    intro k hle hk
    change n.address.bits[k]? = some true
    have hnone : n.mask.bits[k]? = none := by
      have hcases := n.mask.size_cases
      rw [List.getElem?_eq_none]
      rw [Mask.length_bits]
      omega
    have hone := hones k hle hk
    rw [getElem?_bits_broadcast hsize, hnone] at hone
    simpa using hone

/-- Filling makes a normalized IPv6 address stand for an IPv4 address with just these masks. -/
theorem isMapped_broadcast_iff (hsize : n.address.size = 16) (hnormal : n.address.Normalized) :
    Address.isMapped n.broadcast.octets = true ↔ n.FillsMapped := by
  -- A bit of the broadcast address is one if it is in the address or is not in the mask.
  have hbit (hmask : n.mask.size = 16) (k : Nat) (hk : k < 96) : ∃ b m,
      n.address.bits[k]? = some b ∧ n.mask.bits[k]? = some m ∧
        n.broadcast.bits[k]? = some (b || !m) := by
    obtain ⟨b, hb⟩ := Address.exists_bit (a := n.address) (k := k) (by omega)
    obtain ⟨m, hm⟩ := Mask.exists_bit (m := n.mask) (k := k) (by omega)
    refine ⟨b, m, hb, hm, ?_⟩
    rw [getElem?_bits_broadcast hsize, hb, hm]
    rfl
  constructor
  · intro hmapped
    have hmask := size_mask_of_isMapped_broadcast hsize hnormal hmapped
    obtain ⟨hzeros, hones⟩ := Address.isMapped_iff.mp hmapped
    refine ⟨fun k hk => ?_, fun k hle hk => ?_⟩
    · obtain ⟨b, m, hb, hm, hfilled⟩ := hbit hmask k (by omega)
      rw [hb, hm]
      simpa using hfilled.symm.trans (hzeros k hk)
    · obtain ⟨b, m, hb, hm, hfilled⟩ := hbit hmask k hk
      rw [hb, hm]
      simpa using hfilled.symm.trans (hones k hle hk)
  · intro hfills
    refine Address.isMapped_iff.mpr ⟨fun k hk => ?_, fun k hle hk => ?_⟩
    · obtain ⟨b, m, hb, hm, hfilled⟩ := hbit hfills.size_mask k (by omega)
      have hkept := hfills.1 k hk
      rw [hb, hm] at hkept
      refine hfilled.trans ?_
      simpa using hkept
    · obtain ⟨b, m, hb, hm, hfilled⟩ := hbit hfills.size_mask k hk
      have hset := hfills.2 k hle hk
      rw [hb, hm] at hset
      refine hfilled.trans ?_
      simpa using hset

theorem normalized_broadcast_iff (hnormal : n.address.Normalized) :
    n.broadcast.Normalized ↔ ¬ n.FillsMapped := by
  constructor
  · intro hbroadcast hfills
    have hsize := hfills.size_address
    refine hbroadcast ⟨Address.isV6_iff.mpr ?_, (isMapped_broadcast_iff hsize hnormal).mpr hfills⟩
    rw [size_broadcast, hsize]
  · rintro hfills ⟨hv6, hmapped⟩
    have hsize : n.address.size = 16 := n.size_broadcast ▸ Address.isV6_iff.mp hv6
    exact hfills ((isMapped_broadcast_iff hsize hnormal).mp hmapped)

theorem broadcast_eq_unset_iff : n.broadcast = Address.unset ↔ n.address = Address.unset := by
  have hsize (a : Address) : a = Address.unset ↔ a.size = 0 := by
    rw [Address.size, List.length_eq_zero_iff]
    exact ⟨congrArg Address.octets, fun h => Address.ext h⟩
  rw [hsize, hsize, size_broadcast]

/-- The broadcast address of `::/80` stands for an IPv4 address, and is read back as this. -/
theorem broadcast_not_normalized :
    let n : Network := ⟨Address.ofOctets (List.replicate 16 0), Mask.ofPrefix 80 128⟩
    n.address.Normalized ∧ ¬ n.broadcast.Normalized ∧
      n.broadcast.toText = Text.ofString "::ffff:255.255.255.255" ∧
      Address.parse? n.broadcast.toText = some (Address.v4 255 255 255 255) ∧
      Address.v4 255 255 255 255 ≠ n.broadcast := by
  exact ⟨by decide, by decide, rfl, rfl, by decide⟩

/-- The broadcast address of a network with a normalized address is normalized, and read back from
its text, but for the masks with which filling makes it stand for an IPv4 address. The unset address
has no text. -/
theorem broadcast_read_back_iff (hnormal : n.address.Normalized) :
    (n.broadcast.Normalized ↔ ¬ n.FillsMapped) ∧
      (Address.parse? n.broadcast.toText = some n.broadcast ↔
        n.address ≠ Address.unset ∧ ¬ n.FillsMapped) := by
  refine ⟨normalized_broadcast_iff hnormal, ?_⟩
  constructor
  · intro hread
    -- Whatever is read is normalized and set.
    obtain ⟨hbroadcast, hne⟩ := Address.built_iff.mp (Address.Built.of_parse? hread)
    exact ⟨fun h => hne (broadcast_eq_unset_iff.mpr h),
      (normalized_broadcast_iff hnormal).mp hbroadcast⟩
  · rintro ⟨hne, hfills⟩
    have hbroadcast := (normalized_broadcast_iff hnormal).mpr hfills
    have hset : n.broadcast ≠ Address.unset := fun h => hne (broadcast_eq_unset_iff.mp h)
    exact (Address.built_iff.mpr ⟨hbroadcast, hset⟩).parse?_toText

/-- One more bit in the prefix keeps a zero among the sixteen bits. -/
theorem broadcast_read_back_iff_longerPrefix :
    let n : Network := ⟨Address.ofOctets (List.replicate 16 0), Mask.ofPrefix 81 128⟩
    n.address.Normalized ∧ n.broadcast.Normalized ∧
      Address.parse? n.broadcast.toText = some n.broadcast ∧
      n.broadcast.toText = Text.ofString "::7fff:ffff:ffff" := by
  have hnormal : (Network.mk (Address.ofOctets (List.replicate 16 0))
      (Mask.ofPrefix 81 128)).address.Normalized := by decide
  obtain ⟨hform, hread⟩ := broadcast_read_back_iff hnormal
  have hfills : ¬ (Network.mk (Address.ofOctets (List.replicate 16 0))
      (Mask.ofPrefix 81 128)).FillsMapped := by
    intro hfills
    -- Bit 80 is zero in the address and one in the mask.
    rcases hfills.2 80 (by decide) (by decide) with h | h
    · exact absurd h (by decide)
    · exact absurd h (by decide)
  exact ⟨hnormal, hform.mpr hfills, hread.mpr ⟨by decide, hfills⟩, rfl⟩

end LocalNet.Network
