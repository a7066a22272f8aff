import LocalNet.Network
import LocalNet.Proofs.AddressText
import LocalNet.Proofs.Masks

/-!
# Bits of networks

What a mask does to the bits of an address: the network's base clears those behind the mask, its
broadcast address sets them, and an address lies in the network if it has the same base.

- `Address.Normalized`, `Address.built_iff`: addresses with the one representation that reading and
  octets give them;
- `Network.contains_iff_base_eq`: containment in terms of the base;
- `Network.Covered`: the mask reaches the whole address, so that the network contains this and its
  broadcast address;
- `Network.Canonical`: what applies of the mask is ones and then zeros;
- `Network.HasPrefix`: the mask has a prefix length, and what the base, the broadcast address and
  the contained addresses are then.
-/

namespace LocalNet

/-! ## Normal addresses -/

namespace Address

variable {a b : Address}

theorem family_eq_iff : a.family = b.family ↔ a.size = b.size := by
  have ha : a.size = 0 ∨ a.size = 4 ∨ a.size = 16 := a.length_octets
  have hb : b.size = 0 ∨ b.size = 4 ∨ b.size = 16 := b.length_octets
  rcases ha with ha | ha | ha <;> rcases hb with hb | hb | hb <;> simp [family, ha, hb]

theorem isV4_iff : a.isV4 = true ↔ a.size = 4 := by
  have ha : a.size = 0 ∨ a.size = 4 ∨ a.size = 16 := a.length_octets
  rcases ha with ha | ha | ha <;> simp [isV4, family, ha]

theorem isV6_iff : a.isV6 = true ↔ a.size = 16 := by
  have ha : a.size = 0 ∨ a.size = 4 ∨ a.size = 16 := a.length_octets
  rcases ha with ha | ha | ha <;> simp [isV6, family, ha]

/-- Addresses are equal if their bits are. -/
theorem bits_inj : a.bits = b.bits ↔ a = b := by
  rw [bits, bits, Bits.ofOctets_inj]
  exact ⟨Address.ext, congrArg octets⟩

/-- An address is normalized unless it has sixteen octets that stand for an IPv4 address. -/
def Normalized (a : Address) : Prop :=
  ¬ (a.isV6 = true ∧ isMapped a.octets = true)

instance (a : Address) : Decidable a.Normalized :=
  inferInstanceAs (Decidable (¬ (a.isV6 = true ∧ isMapped a.octets = true)))

theorem Built.size_cases (ha : a.Built) : a.size = 4 ∨ a.size = 16 := by
  rcases ha.cases with h4 | ⟨h16, -⟩
  · exact .inl h4
  · exact .inr h16

/-- Four or sixteen octets give the normalized addresses that are set. -/
theorem built_iff : a.Built ↔ a.Normalized ∧ a ≠ unset := by
  constructor
  · intro ha
    rcases ha.cases with h4 | ⟨h16, hmapped⟩
    · refine ⟨fun h => ?_, ?_⟩
      · have hsize := isV6_iff.mp h.1
        rw [size] at hsize
        omega
      · rintro rfl
        cases h4
    · refine ⟨fun h => ?_, ?_⟩
      · rw [hmapped] at h
        exact Bool.false_ne_true h.2
      · rintro rfl
        cases h16
  · rintro ⟨hnormal, hne⟩
    -- The octets of the address give it back, as far as their number is not zero.
    rcases a.length_octets with h | h | h
    · exact absurd (Address.ext (List.length_eq_zero_iff.mp h)) hne
    · refine ⟨a.octets, .inl h, Address.ext ?_⟩
      simp [ofOctets, h]
    · have hmapped : isMapped a.octets = false := by
        rw [Bool.eq_false_iff]
        exact fun hmapped => hnormal ⟨isV6_iff.mpr h, hmapped⟩
      refine ⟨a.octets, .inr h, Address.ext ?_⟩
      simp [ofOctets, h, hmapped]

theorem length_of_dotted? {t : Text} {octets : List UInt8} (h : dotted? t = some octets) :
    octets.length = 4 := by
  unfold dotted? at h
  simp only at h
  split at h
  · next hparts => exact (length_of_mapM_eq_some h).trans hparts
  · cases h

theorem length_of_sixteen? {t : Text} {octets : List UInt8} (h : sixteen? t = some octets) :
    octets.length = 16 := by
  unfold sixteen? at h
  split at h
  · have hlength := (Option.filter_eq_some_iff.mp h).2
    simpa using hlength
  · split at h
    · simp only [Option.ite_none_right_eq_some, Option.some.injEq] at h
      obtain ⟨hroom, rfl⟩ := h
      simp only [List.length_append, List.length_replicate]
      omega
    · cases h

/-- What is read as an address is normalized. -/
theorem Built.of_parse? {t : Text} (h : parse? t = some a) : a.Built := by
  unfold parse? at h
  split at h
  · cases h
  · obtain ⟨octets, hoctets, rfl⟩ := Option.map_eq_some_iff.mp h
    refine ⟨octets, ?_, rfl⟩
    rcases Option.or_eq_some_iff.mp hoctets with hdotted | ⟨-, hsixteen⟩
    · exact .inl (length_of_dotted? hdotted)
    · exact .inr (length_of_sixteen? hsixteen)

/-- Octets stand for an IPv4 address if eighty bits are zero and the next sixteen are one. -/
theorem isMapped_iff_take {octets : List UInt8} : isMapped octets = true ↔
    (Bits.ofOctets octets).take (80 + 16) =
      List.replicate 80 false ++ List.replicate 16 true := by
  have hstart : Bits.ofOctets mappedStart = List.replicate 80 false ++ List.replicate 16 true := rfl
  have htake := Bits.ofOctets_take octets 12
  rw [isMapped, List.isPrefixOf_iff_prefix, List.prefix_iff_eq_take, ← hstart, ← Bits.ofOctets_inj]
  exact ⟨fun h => htake.symm.trans h.symm, fun h => (htake.trans h).symm⟩

theorem isMapped_iff {octets : List UInt8} : isMapped octets = true ↔
    (∀ k < 80, (Bits.ofOctets octets)[k]? = some false) ∧
      ∀ k, 80 ≤ k → k < 96 → (Bits.ofOctets octets)[k]? = some true := by
  rw [isMapped_iff_take, Bits.take_eq_replicate_append_iff]

end Address

namespace Network

variable {n : Network} {a : Address}

/-! ## Clearing and filling -/

section Operations

variable {f : UInt8 → UInt8 → UInt8} {g : Bool → Bool → Bool}

theorem octets_combine (f : UInt8 → UInt8 → UInt8) (n : Network) :
    (n.combine f).octets = Bits.onCommonStart f n.address.octets n.alignedMask := rfl

/-- Which octets of a mask apply depends on the size of the address only. -/
theorem alignedMask_of_size (hsize : a.size = n.address.size) :
    (Network.mk a n.mask).alignedMask = n.alignedMask := by
  rw [alignedMask, alignedMask, hsize]

/-- A mask of the address's size applies as it is. -/
theorem alignedMask_of_size_mask (hsize : n.mask.size = n.address.size) :
    n.alignedMask = n.mask.octets := by
  have hsizes : ¬ (n.address.size = 4 ∧ n.mask.size = 16) := by omega
  rw [alignedMask, Mask.aligned, if_neg hsizes]
  exact List.take_of_length_le (Nat.le_of_eq hsize)

theorem octets_combine_of_length (hlength : n.alignedMask.length = n.address.size) :
    (n.combine f).octets = n.address.octets.zipWith f n.alignedMask := by
  have hrest : n.address.octets.drop n.alignedMask.length = [] :=
    List.drop_eq_nil_of_le (Nat.le_of_eq hlength.symm)
  rw [octets_combine, Bits.onCommonStart_eq, hrest, List.append_nil]

theorem size_combine (f : UInt8 → UInt8 → UInt8) (n : Network) :
    (n.combine f).size = n.address.size :=
  Bits.length_onCommonStart f n.address.octets n.alignedMask

theorem size_base (n : Network) : n.base.size = n.address.size :=
  size_combine _ n

theorem size_broadcast (n : Network) : n.broadcast.size = n.address.size :=
  size_combine _ ⟨n.address, _⟩

theorem bits_combine (hf : Bits.Bitwise f g) (n : Network) : (n.combine f).bits =
    n.address.bits.zipWith g (Bits.ofOctets n.alignedMask) ++
      n.address.bits.drop (Bits.ofOctets n.alignedMask).length :=
  Bits.ofOctets_onCommonStart hf n.address.octets n.alignedMask

/-- The mask that the broadcast address is made with. -/
def fillMask (n : Network) : Mask :=
  if n.mask.isEmpty then Mask.classful n.address else n.mask

theorem broadcast_eq_combine (n : Network) :
    n.broadcast = Network.combine (fun b m => b ||| ~~~m) ⟨n.address, n.fillMask⟩ := rfl

/-- With a mask of its own, the broadcast address comes from this mask. -/
theorem broadcast_eq (hmask : n.mask.isEmpty = false) :
    n.broadcast = n.combine fun b m => b ||| ~~~m := by
  rw [broadcast_eq_combine, fillMask, hmask]
  rfl

/-- An operation that does not see what another one does under the same mask may follow on it. -/
theorem combine_combine {f' : UInt8 → UInt8 → UInt8} (h : ∀ b m, f (f' b m) m = f b m)
    (n : Network) : combine f ⟨n.combine f', n.mask⟩ = n.combine f := by
  apply Address.ext
  rw [octets_combine, alignedMask_of_size (n.size_combine f')]
  exact Bits.onCommonStart_onCommonStart h n.address.octets n.alignedMask

/-- The bits that the broadcast address sets are those that the base clears. -/
theorem base_broadcast (hmask : n.mask.isEmpty = false) :
    base ⟨n.broadcast, n.mask⟩ = n.base := by
  rw [broadcast_eq hmask]
  exact combine_combine Bits.fill_and n

/-- The bits that the base clears are those that the broadcast address sets. -/
theorem broadcast_base (hmask : n.mask.isEmpty = false) :
    broadcast ⟨n.base, n.mask⟩ = n.broadcast := by
  rw [broadcast_eq hmask, broadcast_eq (n := ⟨n.base, n.mask⟩) hmask]
  exact combine_combine Bits.and_fill n

/-- Under one mask, base and broadcast address determine each other. -/
theorem base_eq_iff_broadcast_eq (hmask : n.mask.isEmpty = false) :
    base ⟨a, n.mask⟩ = n.base ↔ broadcast ⟨a, n.mask⟩ = n.broadcast := by
  constructor
  · intro h
    rw [← broadcast_base (n := ⟨a, n.mask⟩) hmask, h, broadcast_base hmask]
  · intro h
    rw [← base_broadcast (n := ⟨a, n.mask⟩) hmask, h, base_broadcast hmask]

theorem base_le (n : Network) : n.base.octets ≤ n.address.octets :=
  Bits.onCommonStart_and_le n.address.octets n.alignedMask

theorem le_broadcast (n : Network) : n.address.octets ≤ n.broadcast.octets :=
  Bits.le_onCommonStart_fill n.address.octets _

end Operations

/-! ## Containment -/

/-- An address lies in a network if it has the network's family and base. -/
theorem contains_iff_base_eq : n.contains a = true ↔
    n.mask.isEmpty = false ∧ n.alignedMask.length = n.address.size ∧
      a.family = n.address.family ∧ base ⟨a, n.mask⟩ = n.base := by
  -- A mask that reaches all octets leaves none as they are, so that the bases are what is compared.
  have hmasked (hsize : a.size = n.address.size) (hlength : n.alignedMask.length = n.address.size) :
      base ⟨a, n.mask⟩ = n.base ↔
        a.octets.zipWith (· &&& ·) n.alignedMask =
          n.address.octets.zipWith (· &&& ·) n.alignedMask := by
    have haligned := alignedMask_of_size hsize
    have hlength' : (Network.mk a n.mask).alignedMask.length = a.size := by
      rw [haligned, hlength, hsize]
    rw [Address.ext_iff, base, base, octets_combine_of_length hlength',
      octets_combine_of_length hlength, haligned]
  rw [contains]
  simp only [Bool.and_eq_true, Bool.not_eq_true', beq_iff_eq]
  constructor
  · rintro ⟨⟨⟨hmask, hfamily⟩, hlength⟩, hequal⟩
    have hsize := Address.family_eq_iff.mp hfamily
    exact ⟨hmask, hlength, hfamily, (hmasked hsize hlength).mpr hequal.symm⟩
  · rintro ⟨hmask, hlength, hfamily, hbase⟩
    have hsize := Address.family_eq_iff.mp hfamily
    exact ⟨⟨⟨hmask, hfamily⟩, hlength⟩, ((hmasked hsize hlength).mp hbase).symm⟩

/-! ## Masks for the whole address -/

/-- A mask applies as far as both it and the address reach. -/
theorem length_alignedMask (n : Network) :
    n.alignedMask.length = min n.address.size n.mask.size := by
  rw [alignedMask, Mask.aligned]
  split
  · next hsizes =>
    rw [List.length_drop, ← Mask.size, hsizes.1, hsizes.2]
    rfl
  · rw [List.length_take, ← Mask.size]

/-- The mask has an octet for each one of the address. -/
structure Covered (n : Network) : Prop where
  /-- The mask says something. -/
  isEmpty_mask : n.mask.isEmpty = false
  /-- It reaches the last octet of the address. -/
  length_alignedMask : n.alignedMask.length = n.address.size

namespace Covered

theorem contains_address (h : n.Covered) : n.contains n.address = true :=
  contains_iff_base_eq.mpr ⟨h.isEmpty_mask, h.length_alignedMask, rfl, rfl⟩

theorem contains_broadcast (h : n.Covered) : n.contains n.broadcast = true := by
  rw [contains_iff_base_eq]
  refine ⟨h.isEmpty_mask, h.length_alignedMask, ?_, base_broadcast h.isEmpty_mask⟩
  exact Address.family_eq_iff.mpr n.size_broadcast

end Covered

/-! ## Canonical masks -/

/-- The octets of the mask that apply to the network's address are `k` ones and then zeros. -/
def HasOnes (n : Network) (k : Nat) : Prop :=
  Bits.ofOctets n.alignedMask = Bits.onesThenZeros k (8 * n.alignedMask.length)

/-- The octets of the mask that apply to the network's address are ones and then zeros. -/
def Canonical (n : Network) : Prop :=
  ∃ k, n.HasOnes k

theorem HasOnes.le_length {k : Nat} (h : n.HasOnes k) : k ≤ 8 * n.alignedMask.length := by
  have hlength := congrArg List.length h
  rw [Bits.length_ofOctets, Bits.length_onesThenZeros] at hlength
  omega

/-! ## Prefixes -/

/-- The network's address is set, and the octets of the mask that apply to it are `k` ones and then
zeros, as many as it has bits. -/
structure HasPrefix (n : Network) (k : Nat) : Prop where
  /-- The address is set. -/
  size_ne : n.address.size ≠ 0
  /-- The prefix is no longer than the address. -/
  le_size : k ≤ 8 * n.address.size
  /-- The ones and zeros reach from the first bit of the address to its last. -/
  bits_eq : Bits.ofOctets n.alignedMask = Bits.onesThenZeros k (8 * n.address.size)

namespace HasPrefix

variable {k : Nat}

theorem length_alignedMask (h : n.HasPrefix k) : n.alignedMask.length = n.address.size := by
  have hlength := congrArg List.length h.bits_eq
  have hle := h.le_size
  rw [Bits.length_ofOctets, Bits.length_onesThenZeros] at hlength
  omega

theorem hasOnes (h : n.HasPrefix k) : n.HasOnes k := by
  rw [HasOnes, h.length_alignedMask]
  exact h.bits_eq

/-- A prefix reaches the last bit of the address. -/
theorem covered (h : n.HasPrefix k) : n.Covered := by
  have hlength := h.length_alignedMask
  refine ⟨?_, hlength⟩
  have hne := h.size_ne
  rw [Network.length_alignedMask] at hlength
  rw [Mask.isEmpty_eq_false_iff]
  omega

theorem isEmpty_mask (h : n.HasPrefix k) : n.mask.isEmpty = false :=
  h.covered.isEmpty_mask

/-- The prefix of a network is one of every address of the same size. -/
theorem of_size (h : n.HasPrefix k) (hsize : a.size = n.address.size) :
    (Network.mk a n.mask).HasPrefix k := by
  refine ⟨hsize ▸ h.size_ne, hsize ▸ h.le_size, ?_⟩
  rw [alignedMask_of_size hsize, h.bits_eq, hsize]

/-- The base has the prefix of the address and zeros behind it. -/
theorem bits_base (h : n.HasPrefix k) : n.base.bits =
    n.address.bits.take k ++ List.replicate (8 * n.address.size - k) false := by
  have hlength := n.address.length_bits
  have hle : k ≤ n.address.bits.length := hlength ▸ h.le_size
  have hdrop : n.address.bits.drop (Bits.ofOctets n.alignedMask).length = [] := by
    rw [Bits.length_ofOctets, h.length_alignedMask, ← hlength, List.drop_length]
  have hmasked := bits_combine Bits.bitwise_and n
  rw [hdrop, List.append_nil, h.bits_eq, ← hlength,
    Bits.zipWith_onesThenZeros Bool.and_true Bool.and_false hle] at hmasked
  rw [← hlength]
  exact hmasked

theorem length_take_bits (h : n.HasPrefix k) : (n.address.bits.take k).length = k :=
  List.length_take_of_le (n.address.length_bits ▸ h.le_size)

theorem take_bits_base (h : n.HasPrefix k) : n.base.bits.take k = n.address.bits.take k := by
  rw [h.bits_base, List.take_left' h.length_take_bits]

/-- The addresses of a network are those that agree with it in the prefix. -/
theorem contains_iff (h : n.HasPrefix k) : n.contains a = true ↔
    a.family = n.address.family ∧ a.bits.take k = n.address.bits.take k := by
  rw [contains_iff_base_eq]
  constructor
  · rintro ⟨-, -, hfamily, hbase⟩
    have hsame := h.of_size (Address.family_eq_iff.mp hfamily)
    refine ⟨hfamily, ?_⟩
    rw [← hsame.take_bits_base, hbase, h.take_bits_base]
  · rintro ⟨hfamily, htake⟩
    have hsize := Address.family_eq_iff.mp hfamily
    have hsame := h.of_size hsize
    refine ⟨h.isEmpty_mask, h.length_alignedMask, hfamily, Address.bits_inj.mp ?_⟩
    rw [hsame.bits_base, h.bits_base, htake, hsize]

/-- The base and the broadcast address depend on the prefix of the address only. -/
theorem base_eq_and_broadcast_eq (h : n.HasPrefix k) (ha : n.contains a = true) :
    base ⟨a, n.mask⟩ = n.base ∧ broadcast ⟨a, n.mask⟩ = n.broadcast := by
  have hbase := (contains_iff_base_eq.mp ha).2.2.2
  exact ⟨hbase, (base_eq_iff_broadcast_eq h.isEmpty_mask).mp hbase⟩

theorem contains_base (h : n.HasPrefix k) : n.contains n.base = true :=
  h.contains_iff.mpr ⟨Address.family_eq_iff.mpr n.size_base, h.take_bits_base⟩

/-- The addresses of a network lie between its base and its broadcast address. -/
theorem between (h : n.HasPrefix k) (ha : n.contains a = true) :
    n.base.octets ≤ a.octets ∧ a.octets ≤ n.broadcast.octets := by
  obtain ⟨hbase, hbroadcast⟩ := h.base_eq_and_broadcast_eq ha
  rw [← hbase, ← hbroadcast]
  exact ⟨base_le ⟨a, n.mask⟩, le_broadcast ⟨a, n.mask⟩⟩

/-- Clearing the bits behind a prefix keeps the normal form: the base can only stand for an IPv4
address if the prefix holds all that says so. -/
theorem normalized_base (h : n.HasPrefix k) (hnormal : n.address.Normalized) :
    n.base.Normalized := by
  rintro ⟨hv6, hmapped⟩
  have hsize : n.address.size = 16 := n.size_base ▸ Address.isV6_iff.mp hv6
  refine hnormal ⟨Address.isV6_iff.mpr hsize, ?_⟩
  have hone := (Address.isMapped_iff.mp hmapped).2 95 (by decide) (by decide)
  have htake := h.length_take_bits
  by_cases hk : 96 ≤ k
  · -- All of the first 96 bits are kept.
    rw [Address.isMapped_iff_take] at hmapped ⊢
    rw [← hmapped]
    change n.address.bits.take (80 + 16) = n.base.bits.take (80 + 16)
    rw [h.bits_base, List.take_append_of_le_length (by omega), List.take_take,
      Nat.min_eq_left hk]
  · -- The last of the sixteen ones has been cleared.
    change n.base.bits[95]? = some true at hone
    rw [h.bits_base, List.getElem?_append_right (by omega), List.getElem?_replicate] at hone
    split at hone <;> simp at hone

end HasPrefix

end Network

end LocalNet
