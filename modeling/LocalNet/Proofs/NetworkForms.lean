import LocalNet.Proofs.NetworkText

/-!
# The form of a network

The text of a network is an address, a slash and a prefix length for which the address has room. The
prefix length is a decimal numeral without a sign and without leading zeros. Texts of this form are
read, and so are those in which a minus sign stands before a zero or two.

- `Cidr.Written`: the text has the form of a network;
- `Cidr.NegativeZero`: it has the form but for the sign;
- `Cidr.prefixLength?_eq_some_iff`: what is read as a prefix length;
- `Cidr.parse_negativeZero`: a text with the sign is read;
- `Cidr.parse_forms`: what is read of every text, and what is reported on the others.
-/

namespace LocalNet

namespace Cidr

variable {t : Text} {c : Cidr} {a : Address} {k : Nat}

/-! ## The form -/

/-- The number of bits in an address: 32 for IPv4, also if it was written in the notation of IPv6,
and 128 for IPv6. -/
def room (a : Address) : Nat :=
  if a.isV4 then 32 else 128

/-- The text is an address, a slash and a prefix length that is no longer than the address. -/
def Written (a : Address) (k : Nat) (t : Text) : Prop :=
  ∃ before after : Text, t = before ++ Text.ofString "/" ++ after ∧ '/'.toUInt8 ∉ before ∧
    Address.parse? before = some a ∧ Decimal.IsNumeral after k ∧ k ≤ room a

/-- The text is an address, a slash and one or two zeros behind a minus sign. -/
def NegativeZero (a : Address) (t : Text) : Prop :=
  ∃ before after : Text, t = before ++ Text.ofString "/" ++ after ∧ '/'.toUInt8 ∉ before ∧
    Address.parse? before = some a ∧ (after = Text.ofString "-0" ∨ after = Text.ofString "-00")

theorem room_eq (ha : a.Built) : room a = 8 * a.size := by
  unfold room
  split
  · next hv4 => rw [Address.isV4_iff.mp hv4]
  · next hv4 =>
    have hsize := ha.size_cases
    rw [Address.isV4_iff] at hv4
    omega

/-! ## Prefix lengths -/

/-- A prefix length is read from its numeral. Zero is read behind a minus sign as well. -/
theorem prefixLength?_eq_some_iff (hk : k < 1000) : prefixLength? t = some (k : Int) ↔
    Decimal.IsNumeral t k ∨ k = 0 ∧ (t = Text.ofString "-0" ∨ t = Text.ofString "-00") := by
  constructor
  · intro h
    rw [prefixLength?, Option.ite_none_right_eq_some, Decimal.int32?_eq_some_iff] at h
    obtain ⟨⟨hshort, hcanonical⟩, hsigned, -, -⟩ := h
    generalize hv : (k : Int) = v at hsigned
    cases hsigned with
    | plain hne hdigits => exact .inl ⟨hne, hdigits, hcanonical, (Int.ofNat_inj.mp hv).symm⟩
    | @minus t hne hdigits =>
      -- Behind a sign there is room for two digits, and the value is not negative.
      right
      have hzero : Decimal.value t = 0 := by omega
      have hzeros := Decimal.eq_replicate_of_value_eq_zero hdigits hzero
      have hpos : 0 < t.length := List.length_pos_iff.mpr hne
      rw [List.length_cons] at hshort
      obtain hone | htwo : t.length = 1 ∨ t.length = 2 := by omega
      · rw [hone] at hzeros
        exact ⟨by omega, .inl (hzeros ▸ rfl)⟩
      · rw [htwo] at hzeros
        exact ⟨by omega, .inr (hzeros ▸ rfl)⟩
  · rintro (hnumeral | ⟨rfl, rfl | rfl⟩)
    · rw [Decimal.isNumeral_iff.mp hnumeral]
      exact prefixLength?_ofNat hk
    · rfl
    · rfl

/-! ## Reading -/

theorem append_slash (before after : Text) :
    before ++ Text.ofString "/" ++ after = before ++ '/'.toUInt8 :: after :=
  List.append_assoc before (Text.ofString "/") after

/-- What is read of a text, in terms of its parts. -/
theorem parse?_eq_some_iff : parse? t = some c ↔
    ∃ (before after : Text) (a : Address) (k : Nat),
      t = before ++ Text.ofString "/" ++ after ∧ '/'.toUInt8 ∉ before ∧
        Address.parse? before = some a ∧ prefixLength? after = some (k : Int) ∧ k ≤ room a ∧
        cut a k = c := by
  unfold parse?
  constructor
  · intro h
    split at h
    · next before after hcut =>
      obtain ⟨rfl, hslash⟩ := Text.cutFirst?_eq_some_iff.mp hcut
      split at h
      · next a ones haddress hlength =>
        have ha := Address.Built.of_parse? haddress
        obtain ⟨k, rfl, hk, rfl⟩ := (ofPrefix?_eq_some_iff ha).mp h
        exact ⟨before, after, a, k, (append_slash before after).symm, hslash, haddress, hlength,
          room_eq ha ▸ hk, rfl⟩
      · cases h
    · cases h
  · rintro ⟨before, after, a, k, rfl, hslash, haddress, hlength, hk, rfl⟩
    have ha := Address.Built.of_parse? haddress
    rw [append_slash, Text.cutFirst?_append_cons hslash]
    simp only [haddress, hlength]
    exact (ofPrefix?_eq_some_iff ha).mpr ⟨k, rfl, room_eq ha ▸ hk, rfl⟩

theorem room_lt (a : Address) : room a < 1000 := by
  unfold room
  split <;> decide

/-- A text is read if it has the form of a network, or has it but for the sign of a zero. -/
theorem parse?_eq_some_iff_written : parse? t = some c ↔
    ∃ a k, (Written a k t ∨ k = 0 ∧ NegativeZero a t) ∧ cut a k = c := by
  rw [parse?_eq_some_iff]
  constructor
  · rintro ⟨before, after, a, k, ht, hslash, haddress, hlength, hk, hc⟩
    refine ⟨a, k, ?_, hc⟩
    rcases (prefixLength?_eq_some_iff (Nat.lt_of_le_of_lt hk (room_lt a))).mp hlength with
      hnumeral | ⟨hzero, hafter⟩
    · exact .inl ⟨before, after, ht, hslash, haddress, hnumeral, hk⟩
    · exact .inr ⟨hzero, before, after, ht, hslash, haddress, hafter⟩
  · rintro ⟨a, k, hform, hc⟩
    rcases hform with ⟨before, after, ht, hslash, haddress, hnumeral, hk⟩ |
      ⟨rfl, before, after, ht, hslash, haddress, hafter⟩
    · have hlength := (prefixLength?_eq_some_iff (Nat.lt_of_le_of_lt hk (room_lt a))).mpr
        (.inl hnumeral)
      exact ⟨before, after, a, k, ht, hslash, haddress, hlength, hk, hc⟩
    · have hlength := (prefixLength?_eq_some_iff (k := 0) (by decide)).mpr (.inr ⟨rfl, hafter⟩)
      exact ⟨before, after, a, 0, ht, hslash, haddress, hlength, Nat.zero_le _, hc⟩

/-- A sign is not part of the form, whatever address stands before it. -/
theorem NegativeZero.not_written {a' : Address} (h : NegativeZero a t) : ¬ Written a' k t := by
  rintro ⟨before', after', ht', hslash', -, hnumeral, -⟩
  obtain ⟨before, after, ht, hslash, -, hafter⟩ := h
  -- Both ways to cut the text end at its first slash.
  have hcut : Text.cutFirst? '/'.toUInt8 t = some (before, after) :=
    Text.cutFirst?_eq_some_iff.mpr ⟨ht.trans (append_slash before after), hslash⟩
  have hcut' : Text.cutFirst? '/'.toUInt8 t = some (before', after') :=
    Text.cutFirst?_eq_some_iff.mpr ⟨ht'.trans (append_slash before' after'), hslash'⟩
  obtain ⟨-, rfl⟩ := Prod.mk.inj (Option.some.inj (hcut.symm.trans hcut'))
  have hminus : '-'.toUInt8 ∈ after := by
    rcases hafter with rfl | rfl <;> decide
  exact absurd (hnumeral.isDigit _ hminus) (by decide)

/-- A zero behind a minus sign is read as a prefix length. -/
theorem parse_negativeZero :
    let t := Text.ofString "192.0.2.1/-0"
    parse t = .ok ⟨Address.v4 192 0 2 1, ⟨Address.v4 0 0 0 0, Mask.ofPrefix 0 32⟩⟩ ∧
      ∀ a k, ¬ Written a k t := by
  have hnegative : NegativeZero (Address.v4 192 0 2 1) (Text.ofString "192.0.2.1/-0") :=
    ⟨Text.ofString "192.0.2.1", Text.ofString "-0", rfl, by decide, rfl, .inl rfl⟩
  exact ⟨rfl, fun a k => hnegative.not_written⟩

/-- A text is read just if it has the form of a network, apart from the texts in which a minus sign
stands before a zero or two: they do not have the form and are read like one with prefix length
zero. Any other text is refused with a fault that quotes it. -/
theorem parse_forms (t : Text) :
    (∀ c, parse t = .ok c ↔
      ∃ a k, (Written a k t ∨ k = 0 ∧ NegativeZero a t) ∧ cut a k = c) ∧
    (∀ a a' k, NegativeZero a t → ¬ Written a' k t) ∧
    ∀ fault, parse t = .error fault ↔
      (∀ a k, ¬ Written a k t) ∧ (∀ a, ¬ NegativeZero a t) ∧
        { kind := .parse
          message := Text.ofString "invalid CIDR address: " ++ t } = fault := by
  refine ⟨fun c => ?_, fun a a' k h => h.not_written, fun fault => ?_⟩
  · rw [← parse?_eq_some_iff_written, parse_eq_ok_iff]
  · have hnone : parse? t = none ↔
        (∀ a k, ¬ Written a k t) ∧ ∀ a, ¬ NegativeZero a t := by
      rw [Option.eq_none_iff_forall_ne_some]
      constructor
      · intro h
        refine ⟨fun a k hform => ?_, fun a hform => ?_⟩
        · exact h _ (parse?_eq_some_iff_written.mpr ⟨a, k, .inl hform, rfl⟩)
        · exact h _ (parse?_eq_some_iff_written.mpr ⟨a, 0, .inr ⟨rfl, hform⟩, rfl⟩)
      · rintro ⟨hwritten, hnegative⟩ c hc
        obtain ⟨a, k, hform | ⟨-, hform⟩, -⟩ := parse?_eq_some_iff_written.mp hc
        · exact hwritten a k hform
        · exact hnegative a hform
    rw [← and_assoc, ← hnone, parse]
    cases hparse : parse? t <;> simp [invalid]

end Cidr

end LocalNet
