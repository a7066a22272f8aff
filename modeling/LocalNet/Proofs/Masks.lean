import LocalNet.Mask
import LocalNet.Proofs.BitRows

/-!
# Masks of a prefix length

- `Address.bits`, `Mask.bits`: addresses and masks as rows of bits;
- `Mask.bits_ofPrefix`: the mask of a prefix length has that many ones in front and zeros behind them;
- `Mask.isEmpty_ofPrefix_iff`: the prefix lengths that have a mask;
- `Mask.prefixLength?_eq_some_iff`: the masks that have a prefix length;
- `Mask.prefixLength?_ofPrefix_inverse`: prefix lengths and the masks that have one determine each
  other.
-/

namespace LocalNet

/-- The bits of an address, most significant first. -/
def Address.bits (a : Address) : List Bool :=
  Bits.ofOctets a.octets

theorem Address.length_bits (a : Address) : a.bits.length = 8 * a.size :=
  Bits.length_ofOctets a.octets

theorem Address.exists_bit {a : Address} {k : Nat} (hk : k < 8 * a.size) :
    ∃ b, a.bits[k]? = some b :=
  ⟨_, List.getElem?_eq_getElem (a.length_bits ▸ hk)⟩

namespace Mask

/-- The bits of a mask, most significant first. -/
def bits (m : Mask) : List Bool :=
  Bits.ofOctets m.octets

theorem length_bits (m : Mask) : m.bits.length = 8 * m.size :=
  Bits.length_ofOctets m.octets

theorem exists_bit {m : Mask} {k : Nat} (hk : k < 8 * m.size) : ∃ b, m.bits[k]? = some b :=
  ⟨_, List.getElem?_eq_getElem (m.length_bits ▸ hk)⟩

theorem size_cases (m : Mask) : m.size = 0 ∨ m.size = 4 ∨ m.size = 16 := by
  have hlength := m.length_octets
  simpa [size] using hlength

theorem isEmpty_eq_false_iff (m : Mask) : m.isEmpty = false ↔ m.size ≠ 0 := by
  rw [isEmpty, size, List.isEmpty_eq_false_iff, ne_eq, ne_eq, List.length_eq_zero_iff]

theorem octets_ofOctets {octets : List UInt8} (h : octets.length = 4 ∨ octets.length = 16) :
    (ofOctets octets).octets = octets := by
  rcases h with h | h <;> simp [ofOctets, h]

/-- The octets of a mask give the mask. -/
theorem ofOctets_octets (m : Mask) : ofOctets m.octets = m := by
  rcases m.size_cases with h | h | h
  · have hnil : m.octets = [] := List.length_eq_zero_iff.mp h
    cases m
    simp_all [ofOctets, empty]
  · exact dif_pos h
  · have h16 : m.octets.length = 16 := h
    have h4 : m.octets.length ≠ 4 := by omega
    rw [ofOctets, dif_neg h4, dif_pos h16]

/-! ## The mask of a prefix length -/

section Prefixes

variable {n size : Nat}

theorem octets_ofPrefix (hsize : size = 4 ∨ size = 16) (hn : n ≤ 8 * size) :
    (ofPrefix n (8 * size : Nat)).octets =
      (List.range size).map fun i => Bits.leadingOnes (n - 8 * i) := by
  have hvalid : (((8 * size : Nat) : Int) = 32 ∨ ((8 * size : Nat) : Int) = 128) ∧
      (0 : Int) ≤ n ∧ (n : Int) ≤ (8 * size : Nat) := by
    omega
  have hdiv : 8 * size / 8 = size := Nat.mul_div_cancel_left size (by decide)
  rw [ofPrefix, if_pos hvalid, Int.toNat_natCast, Int.toNat_natCast, hdiv]
  rcases hsize with rfl | rfl <;> rfl

theorem size_ofPrefix (hsize : size = 4 ∨ size = 16) (hn : n ≤ 8 * size) :
    (ofPrefix n (8 * size : Nat)).size = size := by
  rw [Mask.size, octets_ofPrefix hsize hn, List.length_map, List.length_range]

theorem bits_ofPrefix (hsize : size = 4 ∨ size = 16) (hn : n ≤ 8 * size) :
    (ofPrefix n (8 * size : Nat)).bits = Bits.onesThenZeros n (8 * size) := by
  rw [bits, octets_ofPrefix hsize hn, Bits.ofOctets_leadingOnes hn]

/-- There is a mask for the prefix lengths up to the number of bits. -/
theorem isEmpty_ofPrefix_iff (hsize : size = 4 ∨ size = 16) (ones : Int) :
    (ofPrefix ones (8 * size : Nat)).isEmpty = false ↔ 0 ≤ ones ∧ ones ≤ (8 * size : Nat) := by
  constructor
  · intro h
    unfold ofPrefix at h
    split at h
    · next hvalid => exact hvalid.2
    · exact absurd h (by decide)
  · rintro ⟨hpos, hle⟩
    obtain ⟨n, rfl⟩ := Int.eq_ofNat_of_zero_le hpos
    rw [isEmpty_eq_false_iff]
    rw [size_ofPrefix hsize (Int.ofNat_le.mp hle)]
    omega

/-- The masks with a prefix length are ones and then zeros, and it is the number of the ones. -/
theorem prefixLength?_eq_some_iff {m : Mask} :
    m.prefixLength? = some n ↔ m.size ≠ 0 ∧ m.bits = Bits.onesThenZeros n (8 * m.size) := by
  rw [← isEmpty_eq_false_iff, ← length_bits, Bits.eq_onesThenZeros_iff, prefixLength?]
  simp only [Option.ite_none_right_eq_some, Bool.and_eq_true, Bool.not_eq_true', Option.some.injEq]
  constructor
  · rintro ⟨⟨hempty, hzeros⟩, rfl⟩
    exact ⟨hempty, rfl, hzeros⟩
  · rintro ⟨hempty, rfl, hzeros⟩
    exact ⟨⟨hempty, hzeros⟩, rfl⟩

end Prefixes

/-! ## Prefix lengths and their masks -/

section Inverse

variable {m m' : Mask} {n : Nat} {ones bits : Int}

theorem octets_inj : m.octets = m'.octets ↔ m = m' := by
  constructor
  · intro h
    rw [← ofOctets_octets m, ← ofOctets_octets m', h]
  · rintro rfl
    rfl

/-- Masks are equal if their bits are. -/
theorem bits_inj : m.bits = m'.bits ↔ m = m' := by
  rw [Mask.bits, Mask.bits, Bits.ofOctets_inj, octets_inj]

/-- Of the masks of one size a single one has a given prefix length. -/
theorem prefixLength?_eq_some_iff_eq :
    m.prefixLength? = some n ↔ m.isEmpty = false ∧ m = ofPrefix n (8 * m.size : Nat) := by
  rw [prefixLength?_eq_some_iff, isEmpty_eq_false_iff]
  apply and_congr_right
  intro hne
  have hsize : m.size = 4 ∨ m.size = 16 := m.size_cases.resolve_left hne
  constructor
  · intro hbits
    -- There are no more ones than bits, so that the mask of this prefix length exists.
    have hn : n ≤ 8 * m.size := by
      have hlength := congrArg List.length hbits
      rw [length_bits, Bits.length_onesThenZeros] at hlength
      omega
    rw [← bits_inj, bits_ofPrefix hsize hn, hbits]
  · intro heq
    have hvalid : (ofPrefix n (8 * m.size : Nat)).isEmpty = false := by
      rw [← heq, isEmpty_eq_false_iff]
      exact hne
    obtain ⟨-, hn⟩ := (isEmpty_ofPrefix_iff hsize n).mp hvalid
    rw [← bits_ofPrefix hsize (Int.ofNat_le.mp hn), ← heq]

/-- There are masks of 32 and of 128 bits, with any number of ones for which there is room. -/
theorem isEmpty_ofPrefix_eq_false_iff : (ofPrefix ones bits).isEmpty = false ↔
    (bits = 32 ∨ bits = 128) ∧ 0 ≤ ones ∧ ones ≤ bits := by
  by_cases hbits : bits = 32 ∨ bits = 128
  · rw [and_iff_right hbits]
    rcases hbits with rfl | rfl
    · exact isEmpty_ofPrefix_iff (.inl rfl) ones
    · exact isEmpty_ofPrefix_iff (.inr rfl) ones
  · rw [ofPrefix, if_neg fun h => hbits h.1]
    simp [hbits, isEmpty, empty]

/-- The mask has `bits` bits of which the first `ones` are one and the others zero, and it is read
as a mask of this prefix length. -/
structure IsPrefix (m : Mask) (ones bits : Int) : Prop where
  /-- There are eight bits to an octet. -/
  size_eq : (m.size : Int) = bits / 8
  /-- A bit is one if it is among the first. -/
  bit_eq : ∀ k : Nat, (k : Int) < bits → m.bits[k]? = some (decide ((k : Int) < ones))
  /-- The prefix length is the number of ones. -/
  prefixLength?_eq : m.prefixLength?.map Int.ofNat = some ones

/-- A number of ones for which there is room is the prefix length of its mask. -/
theorem isPrefix_ofPrefix (hbits : bits = 32 ∨ bits = 128) (hpos : 0 ≤ ones) (hle : ones ≤ bits) :
    (ofPrefix ones bits).IsPrefix ones bits := by
  obtain ⟨n, rfl⟩ := Int.eq_ofNat_of_zero_le hpos
  obtain ⟨size, hsize, rfl⟩ : ∃ size : Nat, (size = 4 ∨ size = 16) ∧ bits = (8 * size : Nat) := by
    rcases hbits with rfl | rfl
    · exact ⟨4, .inl rfl, rfl⟩
    · exact ⟨16, .inr rfl, rfl⟩
  have hn : n ≤ 8 * size := Int.ofNat_le.mp hle
  have hsizeMask := size_ofPrefix hsize hn
  have hbitsMask := bits_ofPrefix hsize hn
  constructor
  case size_eq =>
    rw [hsizeMask]
    omega
  case bit_eq =>
    intro k hk
    rw [hbitsMask, Bits.getElem?_onesThenZeros (Int.ofNat_lt.mp hk)]
    simp
  case prefixLength?_eq =>
    have hread : (ofPrefix n (8 * size : Nat)).prefixLength? = some n := by
      rw [prefixLength?_eq_some_iff, hsizeMask, hbitsMask]
      exact ⟨by omega, rfl⟩
    rw [hread]
    rfl

/-- Prefix lengths and masks determine each other. A number of ones has a mask just if there is room
for it in 32 or 128 bits, and is then the prefix length of this mask; a mask has a prefix length just
if it is the mask of this length. -/
theorem prefixLength?_ofPrefix_inverse (ones bits : Int) (m : Mask) :
    ((ofPrefix ones bits).isEmpty = false ↔
      (bits = 32 ∨ bits = 128) ∧ 0 ≤ ones ∧ ones ≤ bits) ∧
    ((ofPrefix ones bits).isEmpty = false → (ofPrefix ones bits).IsPrefix ones bits) ∧
    (∀ n : Nat, m.prefixLength? = some n ↔
      m.isEmpty = false ∧ m = ofPrefix n (8 * m.size : Nat)) ∧
    (m.prefixLength? = none ↔
      m.isEmpty = true ∨ ∀ n : Nat, m ≠ ofPrefix n (8 * m.size : Nat)) := by
  refine ⟨isEmpty_ofPrefix_eq_false_iff, fun hvalid => ?_, fun n => prefixLength?_eq_some_iff_eq, ?_⟩
  · obtain ⟨hbits, hpos, hle⟩ := isEmpty_ofPrefix_eq_false_iff.mp hvalid
    exact isPrefix_ofPrefix hbits hpos hle
  · simp only [Option.eq_none_iff_forall_ne_some, ne_eq, prefixLength?_eq_some_iff_eq, not_and]
    cases m.isEmpty <;> simp

/-- A prefix that ends within an octet, and a mask whose ones are not all in front. -/
theorem prefixLength?_ofPrefix_inverse_withinOctet :
    (ofPrefix 77 128).isEmpty = false ∧ (ofPrefix 77 128).IsPrefix 77 128 ∧
      (ofPrefix 77 128).octets = List.replicate 9 255 ++ [248] ++ List.replicate 6 0 ∧
      ∀ n : Nat, ofOctets [255, 0, 255, 0] ≠ ofPrefix n 32 := by
  obtain ⟨hvalid, hlead, -, hnone⟩ :=
    prefixLength?_ofPrefix_inverse 77 128 (ofOctets [255, 0, 255, 0])
  have hone : (ofPrefix 77 128).isEmpty = false := hvalid.mpr (by decide)
  have hscattered : (ofOctets [255, 0, 255, 0]).prefixLength? = none := by decide
  refine ⟨hone, hlead hone, by decide, ?_⟩
  exact (hnone.mp hscattered).resolve_left (by decide)

end Inverse

end Mask

end LocalNet
