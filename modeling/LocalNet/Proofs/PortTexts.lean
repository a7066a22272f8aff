import LocalNet.Arguments
import LocalNet.Proofs.Numerals

/-!
# Texts of ports

A port is written as a row of decimal digits for a number up to 65535, with any number of zeros in
front. Texts of this form are read, and so are zeros behind a minus sign.

- `Arguments.IsPort`: the text has the form of a port;
- `Arguments.NegativeZero`: the text has the form but for the sign;
- `Arguments.port_eq_ok_iff`: what is read as a port;
- `Arguments.port_of_negativeZero`: a text with the sign is read;
- `Arguments.port_forms`: what is read of every text, and what is reported on the others.
-/

namespace LocalNet

/-- The error text after something was read: that of the refusal, or what it was before. -/
def ArgumentError.textAfter {α : Type} (before : Text) : Except ArgumentError α → Text
  | .ok _ => before
  | .error e => e.message

namespace Arguments

variable {value : Text} {k : Nat} {n : Int}

/-! ## The form -/

/-- The text is a row of digits for a number in the range of ports. -/
structure IsPort (value : Text) (k : Nat) : Prop where
  /-- There is a digit. -/
  ne_nil : value ≠ []
  /-- There is nothing but digits. -/
  isDigit : ∀ c ∈ value, Decimal.isDigit c = true
  /-- The digits denote the number. -/
  value_eq : Decimal.value value = k
  /-- The number is a port. -/
  le_max : k ≤ 65535

/-- The text is a minus sign before one or more zeros. -/
def NegativeZero (value : Text) : Prop :=
  ∃ count : Nat, 0 < count ∧ value = '-'.toUInt8 :: List.replicate count '0'.toUInt8

/-- A sign is not part of the form. -/
theorem NegativeZero.not_isPort (h : NegativeZero value) : ¬ IsPort value k := by
  obtain ⟨count, -, rfl⟩ := h
  intro hport
  exact absurd (hport.isDigit _ List.mem_cons_self) (by decide)

/-! ## Reading -/

/-- A port is the number of a numeral within the range of ports. -/
theorem port_eq_ok_iff :
    port value = .ok n ↔ Decimal.Signed value n ∧ 0 ≤ n ∧ n ≤ 65535 := by
  have hread : (Decimal.int32? value).filter
        (fun n => decide (0 ≤ n ∧ n ≤ ArgumentError.maxPort)) = some n ↔
      Decimal.Signed value n ∧ 0 ≤ n ∧ n ≤ 65535 := by
    rw [Option.filter_eq_some_iff, Decimal.int32?_eq_some_iff, decide_eq_true_iff,
      ArgumentError.maxPort]
    -- A number in the range of ports fits into 32 bits.
    constructor
    · rintro ⟨⟨hsigned, -, -⟩, hrange⟩
      exact ⟨hsigned, hrange⟩
    · rintro ⟨hsigned, hlow, hhigh⟩
      exact ⟨⟨hsigned, by omega, by omega⟩, hlow, hhigh⟩
  rw [← hread, port]
  split
  · next n' hn =>
    rw [hn]
    simp
  · next hn =>
    rw [hn]
    simp

theorem IsPort.signed (h : IsPort value k) : Decimal.Signed value k := by
  obtain ⟨hne, hdigits, rfl, -⟩ := h
  exact .plain hne hdigits

theorem NegativeZero.signed (h : NegativeZero value) : Decimal.Signed value 0 := by
  obtain ⟨count, hcount, rfl⟩ := h
  have hsigned := Decimal.Signed.minus (t := List.replicate count '0'.toUInt8)
    (by simpa using Nat.pos_iff_ne_zero.mp hcount)
    (by
      intro c hc
      rw [List.eq_of_mem_replicate hc]
      rfl)
  rwa [Decimal.value_replicate_zero] at hsigned

/-- A signed numeral in the range of ports has no sign, or it is a zero. -/
theorem isPort_or_negativeZero (hsigned : Decimal.Signed value n) (hlow : 0 ≤ n)
    (hhigh : n ≤ 65535) : (∃ k : Nat, IsPort value k ∧ n = k) ∨ NegativeZero value ∧ n = 0 := by
  cases hsigned with
  | plain hne hdigits => exact .inl ⟨_, ⟨hne, hdigits, rfl, by omega⟩, rfl⟩
  | @minus t hne hdigits =>
    -- Behind the sign the digits can only denote zero.
    have hzero : Decimal.value t = 0 := by omega
    refine .inr ⟨⟨t.length, List.length_pos_iff.mpr hne, ?_⟩, by omega⟩
    rw [← Decimal.eq_replicate_of_value_eq_zero hdigits hzero]

/-- A text is read if it has the form of a port, or has it but for the sign of a zero. -/
theorem port_eq_ok_iff_isPort :
    port value = .ok n ↔ (∃ k : Nat, IsPort value k ∧ n = k) ∨ NegativeZero value ∧ n = 0 := by
  rw [port_eq_ok_iff]
  constructor
  · rintro ⟨hsigned, hlow, hhigh⟩
    exact isPort_or_negativeZero hsigned hlow hhigh
  · rintro (⟨k, hport, rfl⟩ | ⟨hzero, rfl⟩)
    · have hle := hport.le_max
      exact ⟨hport.signed, by omega, by omega⟩
    · exact ⟨hzero.signed, by decide, by decide⟩

/-- A text that is not read is reported as it stands. -/
theorem port_eq_error {e : ArgumentError} (h : port value = .error e) : e = .invalidPort value := by
  unfold port at h
  split at h
  · cases h
  · cases h
    rfl

theorem port_eq_error_iff {e : ArgumentError} :
    port value = .error e ↔ (∀ n, port value ≠ .ok n) ∧ e = .invalidPort value := by
  constructor
  · intro h
    refine ⟨fun n hok => ?_, port_eq_error h⟩
    cases h.symm.trans hok
  · rintro ⟨hok, rfl⟩
    cases hport : port value with
    | ok n => exact absurd hport (hok n)
    | error e => rw [port_eq_error hport]

/-- A zero behind a minus sign is read as a port. -/
theorem port_of_negativeZero :
    port (Text.ofString "-0") = .ok 0 ∧ ∀ k, ¬ IsPort (Text.ofString "-0") k := by
  have hnegative : NegativeZero (Text.ofString "-0") := ⟨1, by decide, rfl⟩
  exact ⟨rfl, fun k => hnegative.not_isPort⟩

/-- A text is read just if it has the form of a port, apart from the texts in which a minus sign
stands before zeros: they do not have the form and are read as zero. The error text stays as it was
then. Any other text is refused, and the error text quotes it. -/
theorem port_forms (value before : Text) :
    (∀ n : Int, port value = .ok n ↔
      (∃ k : Nat, IsPort value k ∧ n = k) ∨ NegativeZero value ∧ n = 0) ∧
    (NegativeZero value → ∀ k, ¬ IsPort value k) ∧
    (∀ e, port value = .error e ↔
      (∀ k, ¬ IsPort value k) ∧ ¬ NegativeZero value ∧ e = .invalidPort value) ∧
    (∀ n, port value = .ok n → ArgumentError.textAfter before (port value) = before) ∧
    ∀ e, port value = .error e → ArgumentError.textAfter before (port value) =
      Text.ofString "Invalid port '" ++ value ++ Text.ofString "' (expected 0-65535)" := by
  refine ⟨fun n => port_eq_ok_iff_isPort, fun h k => h.not_isPort, fun e => ?_, fun n h => ?_,
    fun e h => ?_⟩
  · -- A text is refused if it is read as nothing, so both ways of being read are out.
    rw [port_eq_error_iff, ← and_assoc]
    apply and_congr_left'
    simp only [Ne, port_eq_ok_iff_isPort]
    constructor
    · intro h
      exact ⟨fun k hport => h k (.inl ⟨k, hport, rfl⟩), fun hzero => h 0 (.inr ⟨hzero, rfl⟩)⟩
    · rintro ⟨hport, hzero⟩ n (⟨k, hk, -⟩ | ⟨hnegative, -⟩)
      · exact hport k hk
      · exact hzero hnegative
  · rw [h]
    rfl
  · rw [h, port_eq_error h, ArgumentError.textAfter, ArgumentError.message]
    simp only [List.append_assoc]
    rfl

/-- Zeros in front do not count towards the range, and a numeral beyond 32 bits is refused. -/
theorem port_forms_longNumerals :
    IsPort (Text.ofString "0000000000065535") 65535 ∧
      port (Text.ofString "0000000000065535") = .ok 65535 ∧
      (∀ k, ¬ IsPort (Text.ofString "99999999999999999999") k) ∧
      ¬ NegativeZero (Text.ofString "99999999999999999999") ∧
      port (Text.ofString "99999999999999999999") =
        .error (.invalidPort (Text.ofString "99999999999999999999")) ∧
      NegativeZero (Text.ofString "-00") ∧ port (Text.ofString "-00") = .ok 0 := by
  have hport : IsPort (Text.ofString "0000000000065535") 65535 :=
    ⟨by decide, List.all_eq_true.mp rfl, rfl, by decide⟩
  have hlarge : ∀ k, ¬ IsPort (Text.ofString "99999999999999999999") k := by
    rintro k ⟨-, -, rfl, hle⟩
    exact absurd hle (by decide)
  have hunsigned : ¬ NegativeZero (Text.ofString "99999999999999999999") := by
    rintro ⟨count, -, hsign⟩
    exact absurd (List.cons.inj hsign).1 (by decide)
  have hnegative : NegativeZero (Text.ofString "-00") := ⟨2, by decide, rfl⟩
  obtain ⟨hread, -⟩ := port_forms (Text.ofString "0000000000065535") []
  obtain ⟨-, -, hrefused, -⟩ := port_forms (Text.ofString "99999999999999999999") []
  obtain ⟨hsigned, -⟩ := port_forms (Text.ofString "-00") []
  exact ⟨hport, (hread _).mpr (.inl ⟨_, hport, rfl⟩), hlarge, hunsigned,
    (hrefused _).mpr ⟨hlarge, hunsigned, rfl⟩, hnegative, (hsigned _).mpr (.inr ⟨hnegative, rfl⟩)⟩

end Arguments

end LocalNet
