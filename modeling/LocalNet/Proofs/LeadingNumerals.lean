import LocalNet.Numeral
import LocalNet.Proofs.Numerals
import LocalNet.Proofs.Splitting

/-!
# Numerals at the start of a text

A decimal numeral may stand between blanks, and only its first octets may be at hand. What is read
then is the numeral that these octets show.

- `Numeral.Padded`: a decimal numeral between blanks, which is one again when it is cut short;
- `Numeral.leading?_stripEnd`: blanks at the end do not matter to what is read;
- `Numeral.Padded.leading?_text`: what is read of a numeral between blanks.
-/

namespace LocalNet

/-- Blanks come before all digits and letters. -/
theorem Text.toNat_lt_of_isBlank {c : UInt8} (hc : isBlank c = true) : c.toNat < 48 := by
  simp only [isBlank, Bool.or_eq_true, beq_iff_eq, Bool.and_eq_true, decide_eq_true_iff] at hc
  rcases hc with rfl | ⟨-, hle⟩
  · decide
  · exact Nat.lt_of_le_of_lt (UInt8.le_iff_toNat_le.mp hle) (by decide)

namespace Numeral

/-! ## Numerals between blanks -/

/-- A sign before digits, if there is one. -/
inductive Sign where
  /-- There is no sign. -/
  | absent
  /-- A plus sign. -/
  | plus
  /-- A minus sign. -/
  | minus
deriving DecidableEq

namespace Sign

/-- The sign as it is written. -/
def text : Sign → Text
  | .absent => []
  | .plus => ['+'.toUInt8]
  | .minus => ['-'.toUInt8]

/-- The integer with a magnitude and the sign. -/
def apply (magnitude : Nat) : Sign → Int
  | .absent | .plus => magnitude
  | .minus => -(magnitude : Int)

theorem length_text_le (s : Sign) : s.text.length ≤ 1 := by
  cases s <;> decide

end Sign

/-- A decimal numeral between blanks, or what is left of one that was cut short. -/
structure Padded where
  /-- The blanks before the numeral. -/
  before : Text
  /-- The sign. -/
  sign : Sign
  /-- The digits, leading zeros included. -/
  digits : Text
  /-- The blanks after the numeral. -/
  after : Text
  /-- Blanks come first. -/
  isBlank_before : ∀ c ∈ before, Text.isBlank c = true
  /-- Then come decimal digits. -/
  isDigit_digits : ∀ c ∈ digits, Decimal.isDigit c = true
  /-- Blanks come last. -/
  isBlank_after : ∀ c ∈ after, Text.isBlank c = true

namespace Padded

variable (p : Padded)

/-- The octets. -/
def text : Text :=
  p.before ++ (p.sign.text ++ (p.digits ++ p.after))

/-- The integer that the numeral denotes. -/
def value : Int :=
  p.sign.apply (Decimal.value p.digits)

/-- The integer, if there are digits at all. -/
def value? : Option Int :=
  if p.digits = [] then none else some p.value

/-- What the first octets show. A sign for which there is no room is not there. -/
def cut (room : Nat) : Padded where
  before := p.before.take room
  sign := if p.before.length < room then p.sign else .absent
  digits := p.digits.take (room - p.before.length - p.sign.text.length)
  after := p.after.take (room - p.before.length - p.sign.text.length - p.digits.length)
  isBlank_before := fun c hc => p.isBlank_before c (List.mem_of_mem_take hc)
  isDigit_digits := fun c hc => p.isDigit_digits c (List.mem_of_mem_take hc)
  isBlank_after := fun c hc => p.isBlank_after c (List.mem_of_mem_take hc)

theorem text_cut (room : Nat) : (p.cut room).text = p.text.take room := by
  have hsign := p.sign.length_text_le
  -- A sign is one octet, so that either all of it fits or nothing.
  have hmark : (p.cut room).sign.text = p.sign.text.take (room - p.before.length) := by
    simp only [cut]
    split
    · rw [List.take_of_length_le (by omega)]
    · have hzero : room - p.before.length = 0 := by omega
      rw [hzero, List.take_zero]
      rfl
  rw [text, hmark, text, List.take_append, List.take_append, List.take_append]
  rfl

/-- There is no zero octet. -/
theorem ne_zero_of_mem_text {c : UInt8} (hc : c ∈ p.text) : c ≠ 0 := by
  rintro rfl
  simp only [text, List.mem_append] at hc
  rcases hc with hc | hc | hc | hc
  · exact absurd (p.isBlank_before 0 hc) (by decide)
  · revert hc
    cases p.sign <;> decide
  · exact absurd (p.isDigit_digits 0 hc) (by decide)
  · exact absurd (p.isBlank_after 0 hc) (by decide)

end Padded

/-! ## Reading -/

theorem digit?_of_isDigit {c : UInt8} (hc : Decimal.isDigit c = true) :
    digit? c = some (c.toNat - '0'.toUInt8.toNat) :=
  if_pos hc

theorem digit?_of_isBlank {c : UInt8} (hc : Text.isBlank c = true) : digit? c = none := by
  have hlt := Text.toNat_lt_of_isBlank hc
  have hbelow : ∀ d : UInt8, 48 ≤ d.toNat → ¬ d ≤ c := by
    intro d hd hle
    have := UInt8.le_iff_toNat_le.mp hle
    omega
  unfold digit?
  simp only [hbelow '0'.toUInt8 (by decide), hbelow 'a'.toUInt8 (by decide),
    hbelow 'A'.toUInt8 (by decide), decide_false, Bool.false_and, Bool.false_eq_true, if_false]

/-- Decimal digits are read as what they denote. -/
theorem digits_of_isDigit {t : Text} (ht : ∀ c ∈ t, Decimal.isDigit c = true) :
    digits 10 t = t.map fun c => c.toNat - '0'.toUInt8.toNat := by
  induction t with
  | nil => rfl
  | cons c t ih =>
    have hc := ht c List.mem_cons_self
    have hsmall : c.toNat - '0'.toUInt8.toNat < 10 := by
      obtain ⟨hlow, hhigh⟩ := Decimal.isDigit_iff.mp hc
      change c.toNat - 48 < 10
      omega
    rw [digits, digit?_of_isDigit hc]
    simp only [hsmall, if_true, List.map_cons, ih fun c hc => ht c (List.mem_cons_of_mem _ hc)]

/-- Blanks end the digits. -/
theorem digits_append_blanks (base : Nat) (t : Text) {blanks : Text}
    (hblanks : ∀ c ∈ blanks, Text.isBlank c = true) :
    digits base (t ++ blanks) = digits base t := by
  induction t with
  | nil =>
    cases blanks with
    | nil => rfl
    | cons c blanks =>
      simp only [List.nil_append, digits, digit?_of_isBlank (hblanks c List.mem_cons_self)]
  | cons c t ih => rw [List.cons_append, digits, digits, ih]

/-- What is behind the first octet does not take part in the sign. -/
theorem sign_append {t : Text} (ht : t ≠ []) (others : Text) :
    sign (t ++ others) = ((sign t).1, (sign t).2 ++ others) := by
  obtain ⟨c, t, rfl⟩ := List.exists_cons_of_ne_nil ht
  simp only [List.cons_append, sign]
  split
  · rfl
  · split <;> rfl

/-- The integer of a sign and of the values of decimal digits, if there are any. -/
def ofDigits (negative : Bool) (ds : List Nat) : Option Int :=
  if ds = [] then none
  else
    let magnitude : Nat := ds.foldl (fun n d => 10 * n + d) 0
    some (clamp64 (if negative then -(magnitude : Int) else magnitude))

/-- In base ten nothing but blanks and a sign comes before the digits. -/
theorem leading?_ten (t : Text) :
    leading? 10 t = ofDigits (sign (t.dropWhile Text.isBlank)).1
      (digits 10 (sign (t.dropWhile Text.isBlank)).2) := by
  have hbase : resolveBase 10 (sign (t.dropWhile Text.isBlank)).2 =
      (10, (sign (t.dropWhile Text.isBlank)).2) := rfl
  unfold leading?
  rw [if_neg (by decide)]
  simp only [show (10 : Int).toNat = 10 from rfl, hbase, ofDigits]
  cases digits 10 (sign (t.dropWhile Text.isBlank)).2 <;> rfl

theorem leading?_blanks_append {blanks : Text} (hblanks : ∀ c ∈ blanks, Text.isBlank c = true)
    (t : Text) : leading? 10 (blanks ++ t) = leading? 10 t := by
  rw [leading?_ten, leading?_ten, List.dropWhile_append_of_pos hblanks]

theorem leading?_append_blanks (t : Text) {blanks : Text}
    (hblanks : ∀ c ∈ blanks, Text.isBlank c = true) :
    leading? 10 (t ++ blanks) = leading? 10 t := by
  rw [leading?_ten, leading?_ten, List.dropWhile_append]
  by_cases hrest : t.dropWhile Text.isBlank = []
  · -- There is nothing but blanks on either side.
    rw [if_pos (List.isEmpty_iff.mpr hrest), hrest, List.dropWhile_eq_nil_iff.mpr hblanks]
  · rw [if_neg (by simpa using hrest), sign_append hrest, digits_append_blanks 10 _ hblanks]

/-- Blanks that are stripped off the end do not matter. -/
theorem leading?_stripEnd (t : Text) : leading? 10 t.stripEnd = leading? 10 t := by
  have hblanks : ∀ c ∈ t.rtakeWhile Text.isTrailingBlank, Text.isBlank c = true := by
    intro c hc
    have htrailing := List.mem_rtakeWhile_imp hc
    simp only [Text.isTrailingBlank, Bool.or_eq_true, beq_iff_eq] at htrailing
    rcases htrailing with ((rfl | rfl) | rfl) | rfl <;> rfl
  have hcut : t = t.stripEnd ++ t.rtakeWhile Text.isTrailingBlank :=
    (List.rdropWhile_append_rtakeWhile (p := Text.isTrailingBlank) (l := t)).symm
  conv =>
    rhs
    rw [hcut, leading?_append_blanks _ hblanks]

/-- A digit is neither a blank nor a sign. -/
theorem sign_text_append (s : Sign) {t : Text} (ht : ∀ c ∈ t, Decimal.isDigit c = true) :
    sign ((s.text ++ t).dropWhile Text.isBlank) = (decide (s = .minus), t) := by
  cases s with
  | absent =>
    cases t with
    | nil => rfl
    | cons c t =>
      -- Blanks and signs come before the digits in the order of octets.
      obtain ⟨hlow, -⟩ := Decimal.isDigit_iff.mp (ht c List.mem_cons_self)
      have hne : ∀ d : UInt8, d.toNat < 48 → c ≠ d := by
        rintro d hd rfl
        omega
      have hblank : ¬ Text.isBlank c = true := fun hc => by
        have := Text.toNat_lt_of_isBlank hc
        omega
      rw [Sign.text, List.nil_append, List.dropWhile_cons_of_neg hblank, sign,
        if_neg (hne _ (by decide)), if_neg (hne _ (by decide))]
      rfl
  | plus => rfl
  | minus => rfl

theorem ofDigits_map (s : Sign) (t : Text) :
    ofDigits (decide (s = .minus)) (t.map fun c => c.toNat - '0'.toUInt8.toNat) =
      if t = [] then none else some (clamp64 (s.apply (Decimal.value t))) := by
  rw [ofDigits, List.foldl_map]
  simp only [List.map_eq_nil_iff]
  cases s <;> rfl

/-- What is read of a numeral between blanks. -/
theorem Padded.leading?_text (p : Padded) : leading? 10 p.text = p.value?.map clamp64 := by
  rw [text, leading?_blanks_append p.isBlank_before, ← List.append_assoc,
    leading?_append_blanks _ p.isBlank_after, leading?_ten, sign_text_append _ p.isDigit_digits,
    digits_of_isDigit p.isDigit_digits, ofDigits_map, value?, value]
  split <;> rfl

/-- What is too small for 64 bits becomes a multiple of 2 to the power of 32, and what is too large
does not. -/
theorem dvd_clamp64_iff (v : Int) :
    4294967296 ∣ clamp64 v ↔
      v < -9223372036854775808 ∨ v ≤ 9223372036854775807 ∧ 4294967296 ∣ v := by
  unfold clamp64
  split
  · omega
  · split <;> omega

end Numeral

end LocalNet
