import LocalNet.Decimal
import LocalNet.Hex
import Mathlib.Data.List.Basic
import Mathlib.Data.List.Induction
import Mathlib.Tactic.IntervalCases

/-!
# Numerals

Printed numerals read back as the numbers they were printed for.

- `Decimal.nat?_ofNat`, `Decimal.canonical_ofNat`: a decimal numeral reads back and has no leading
  zeros;
- `Decimal.isNumeral_iff`: a row of digits without leading zeros is the numeral of what it denotes;
- `Decimal.eq_replicate_of_value_eq_zero`: digits that denote zero are zeros;
- `Decimal.int?_eq_some_iff`: what is read as an integer;
- `Hex.mapM_digit?_ofNat`: so does a hexadecimal one, digit by digit.
-/

namespace LocalNet

/-! ## Decimal numerals -/

namespace Decimal

/-- The last digit comes off the end. -/
theorem ofNat_eq (n : Nat) :
    ofNat n = (if n < 10 then [] else ofNat (n / 10)) ++ [(Nat.digitChar (n % 10)).toUInt8] := by
  unfold ofNat
  rw [Nat.toDigits_eq_if (by decide)]
  split
  · next hn => simp [Nat.mod_eq_of_lt hn]
  · simp

theorem isDigit_digitChar {d : Nat} (hd : d < 10) : isDigit (Nat.digitChar d).toUInt8 = true := by
  interval_cases d <;> rfl

theorem toNat_digitChar {d : Nat} (hd : d < 10) :
    (Nat.digitChar d).toUInt8.toNat - '0'.toUInt8.toNat = d := by
  interval_cases d <;> rfl

/-- A numeral consists of digits. -/
theorem isDigit_of_mem_ofNat {n : Nat} {c : UInt8} (hc : c ∈ ofNat n) : isDigit c = true := by
  induction n using Nat.strongRecOn with
  | ind n ih =>
    rw [ofNat_eq, List.mem_append, List.mem_singleton] at hc
    rcases hc with hc | rfl
    · split at hc
      · simp at hc
      · exact ih (n / 10) (by omega) hc
    · exact isDigit_digitChar (Nat.mod_lt n (by decide))

theorem ofNat_ne_nil (n : Nat) : ofNat n ≠ [] := by
  simp [ofNat]

/-- A numeral begins with a digit. -/
theorem exists_cons_ofNat (n : Nat) : ∃ c t, ofNat n = c :: t ∧ isDigit c = true := by
  obtain ⟨c, t, hcons⟩ := List.exists_cons_of_ne_nil (ofNat_ne_nil n)
  have hc : c ∈ ofNat n := hcons ▸ List.mem_cons_self
  exact ⟨c, t, hcons, isDigit_of_mem_ofNat hc⟩

/-- With a sign it may begin with a minus instead. -/
theorem exists_cons_ofInt (n : Int) :
    ∃ c t, ofInt n = c :: t ∧ (isDigit c = true ∨ c = '-'.toUInt8) := by
  cases n with
  | ofNat n =>
    obtain ⟨c, t, hcons, hc⟩ := exists_cons_ofNat n
    exact ⟨c, t, hcons, .inl hc⟩
  | negSucc n => exact ⟨_, _, rfl, .inr rfl⟩

theorem value_concat (digits : Text) (d : UInt8) :
    value (digits ++ [d]) = 10 * value digits + (d.toNat - '0'.toUInt8.toNat) := by
  simp [value]

/-- A numeral denotes the number that it was printed for. -/
theorem value_ofNat (n : Nat) : value (ofNat n) = n := by
  -- The last digit comes off, and what is left is the numeral of `n / 10`.
  induction n using Nat.strongRecOn with
  | ind n ih =>
    rw [ofNat_eq, value_concat, toNat_digitChar (Nat.mod_lt n (by decide))]
    split
    · next hn => simpa [value] using Nat.mod_eq_of_lt hn
    · rw [ih (n / 10) (by omega)]
      omega

theorem ofNat_inj {m n : Nat} (h : ofNat m = ofNat n) : m = n := by
  rw [← value_ofNat m, h, value_ofNat]

theorem nat?_ofNat (n : Nat) : nat? (ofNat n) = some n := by
  have hall : (ofNat n).all isDigit = true :=
    List.all_eq_true.mpr fun c hc => isDigit_of_mem_ofNat hc
  simp [nat?, ofNat_ne_nil, hall, value_ofNat]

/-- The numeral of a positive number does not start with a zero. -/
theorem head?_ofNat_ne_zero {n : Nat} (hn : 0 < n) : (ofNat n).head? ≠ some '0'.toUInt8 := by
  induction n using Nat.strongRecOn with
  | ind n ih =>
    rw [ofNat_eq]
    split
    · next hlt =>
      rw [Nat.mod_eq_of_lt hlt]
      interval_cases n <;> decide
    · rw [List.head?_append, Option.or_of_isSome (by simp [ofNat_ne_nil])]
      exact ih (n / 10) (by omega) (by omega)

/-- A numeral of more than one digit does not start with a zero. -/
theorem canonical_ofNat (n : Nat) : (ofNat n).length = 1 ∨ (ofNat n).head? ≠ some '0'.toUInt8 := by
  by_cases hn : n < 10
  · left
    rw [ofNat_eq, if_pos hn]
    rfl
  · exact .inr (head?_ofNat_ne_zero (by omega))

theorem length_ofNat_le {n : Nat} (hn : n < 1000) : (ofNat n).length ≤ 3 := by
  rw [ofNat, List.length_map, Nat.length_toDigits_le_iff (by decide) (by decide)]
  exact hn

/-- A row of digits without leading zeros, and the number that it denotes. -/
structure IsNumeral (t : Text) (n : Nat) : Prop where
  /-- There is a digit. -/
  ne_nil : t ≠ []
  /-- There is nothing but digits. -/
  isDigit : ∀ c ∈ t, isDigit c = true
  /-- A zero at the start is the only digit. -/
  canonical : t.length = 1 ∨ t.head? ≠ some '0'.toUInt8
  /-- The digits denote the number. -/
  value_eq : value t = n

theorem isNumeral_ofNat (n : Nat) : IsNumeral (ofNat n) n where
  ne_nil := ofNat_ne_nil n
  isDigit := fun _ hc => isDigit_of_mem_ofNat hc
  canonical := canonical_ofNat n
  value_eq := value_ofNat n

theorem isDigit_iff {d : UInt8} : isDigit d = true ↔ 48 ≤ d.toNat ∧ d.toNat ≤ 57 := by
  rw [isDigit, Bool.and_eq_true, decide_eq_true_iff, decide_eq_true_iff]
  rfl

/-- A digit is written for the number that it denotes. -/
theorem toUInt8_digitChar {d : UInt8} (hd : isDigit d = true) :
    (Nat.digitChar (d.toNat - '0'.toUInt8.toNat)).toUInt8 = d := by
  obtain ⟨hlow, hhigh⟩ := isDigit_iff.mp hd
  obtain ⟨n, hn, rfl⟩ : ∃ n : Nat, n < 10 ∧ d = (48 + n).toUInt8 := by
    refine ⟨d.toNat - 48, by omega, ?_⟩
    rw [Nat.add_sub_cancel' hlow]
    exact UInt8.ofNat_toNat.symm
  interval_cases n <;> rfl

/-- Without leading zeros there is one row of digits for each number. -/
theorem isNumeral_iff {t : Text} {n : Nat} : IsNumeral t n ↔ t = ofNat n := by
  constructor
  · rintro ⟨hne, hdigits, hcanonical, rfl⟩
    -- The last digit comes off the end, and what is left starts with the same digit.
    induction t using List.reverseRecOn with
    | nil => exact absurd rfl hne
    | append_singleton t d ih =>
      have hd := hdigits d (List.mem_append_right t List.mem_cons_self)
      obtain ⟨hlow, hhigh⟩ := isDigit_iff.mp hd
      have hsmall : d.toNat - '0'.toUInt8.toNat < 10 := by
        change d.toNat - 48 < 10
        omega
      rw [value_concat, ofNat_eq, Nat.mul_add_mod, Nat.mod_eq_of_lt hsmall,
        toUInt8_digitChar hd]
      by_cases ht : t = []
      · subst ht
        rw [if_pos (by simpa [value] using hsmall)]
      · have hhead : t.head? ≠ some '0'.toUInt8 := by
          rw [← List.head?_append_of_ne_nil t ht]
          refine hcanonical.resolve_left fun hlength => ht ?_
          simpa using hlength
        have hrest := ih ht (fun c hc => hdigits c (List.mem_append_left [d] hc)) (.inr hhead)
        have hvalue : value t ≠ 0 := by
          intro hzero
          rw [hzero] at hrest
          exact hhead (hrest ▸ rfl)
        have hdiv : (10 * value t + (d.toNat - '0'.toUInt8.toNat)) / 10 = value t := by omega
        rw [if_neg (by omega), hdiv, ← hrest]
  · rintro rfl
    exact isNumeral_ofNat n

/-- Digits that denote zero are zeros. -/
theorem eq_replicate_of_value_eq_zero {t : Text} (hdigits : ∀ c ∈ t, isDigit c = true)
    (hvalue : value t = 0) : t = List.replicate t.length '0'.toUInt8 := by
  induction t using List.reverseRecOn with
  | nil => rfl
  | append_singleton t d ih =>
    -- From the end, where the value falls into ten times that of the others and the last digit.
    rw [value_concat] at hvalue
    have hd := isDigit_iff.mp (hdigits d (List.mem_append_right t List.mem_cons_self))
    have hlast : d.toNat - 48 = 0 := Nat.eq_zero_of_add_eq_zero_left hvalue
    have hzero : d = '0'.toUInt8 := by
      apply UInt8.toNat_inj.mp
      change d.toNat = 48
      omega
    have hrest := ih (fun c hc => hdigits c (List.mem_append_left [d] hc)) (by omega)
    rw [hzero, List.length_append, List.length_singleton, List.replicate_succ', ← hrest]

theorem value_replicate_zero (count : Nat) : value (List.replicate count '0'.toUInt8) = 0 := by
  induction count with
  | zero => rfl
  | succ count ih =>
    rw [List.replicate_succ', value_concat, ih]
    rfl

/-- Digits behind an optional minus sign, and the integer that they denote. -/
inductive Signed : Text → Int → Prop
  /-- Without a sign the digits denote a natural number. -/
  | plain {t : Text} (hne : t ≠ []) (hdigits : ∀ c ∈ t, isDigit c = true) : Signed t (value t)
  /-- The sign stands in front of at least one digit. -/
  | minus {t : Text} (hne : t ≠ []) (hdigits : ∀ c ∈ t, isDigit c = true) :
    Signed ('-'.toUInt8 :: t) (-(value t : Int))

theorem nat?_eq_some_iff {t : Text} {n : Nat} :
    nat? t = some n ↔ t ≠ [] ∧ (∀ c ∈ t, isDigit c = true) ∧ value t = n := by
  simp [nat?, and_assoc]

theorem int?_eq_some_iff {t : Text} {v : Int} : int? t = some v ↔ Signed t v := by
  unfold int?
  constructor
  · intro h
    split at h
    · next hsign =>
      cases hnat : nat? t.tail with
      | none => simp [hnat] at h
      | some n =>
        obtain ⟨hne, hdigits, rfl⟩ := nat?_eq_some_iff.mp hnat
        obtain rfl : -(value t.tail : Int) = v := by simpa [hnat] using h
        rw [← List.cons_head?_tail hsign]
        exact .minus hne hdigits
    · cases hnat : nat? t with
      | none => simp [hnat] at h
      | some n =>
        obtain ⟨hne, hdigits, rfl⟩ := nat?_eq_some_iff.mp hnat
        obtain rfl : (value t : Int) = v := by simpa [hnat] using h
        exact .plain hne hdigits
  · intro h
    cases h with
    | plain hne hdigits =>
      -- A digit is no sign.
      have hsign : t.head? ≠ some '-'.toUInt8 := by
        intro hhead
        exact absurd (hdigits _ (List.mem_of_head? hhead)) (by decide)
      rw [if_neg hsign, nat?_eq_some_iff.mpr ⟨hne, hdigits, rfl⟩]
      rfl
    | minus hne hdigits =>
      rw [List.head?_cons, if_pos rfl, List.tail_cons, nat?_eq_some_iff.mpr ⟨hne, hdigits, rfl⟩]
      rfl

theorem int32?_eq_some_iff {t : Text} {v : Int} :
    int32? t = some v ↔ Signed t v ∧ -2147483648 ≤ v ∧ v ≤ 2147483647 := by
  rw [int32?, Option.filter_eq_some_iff, int?_eq_some_iff, decide_eq_true_iff]

end Decimal

/-! ## Hexadecimal numerals -/

namespace Hex

/-- The last digit comes off the end. -/
theorem ofNat_eq (n : Nat) :
    ofNat n = (if n < 16 then [] else ofNat (n / 16)) ++ [(Nat.digitChar (n % 16)).toUInt8] := by
  unfold ofNat
  rw [Nat.toDigits_eq_if (by decide)]
  split
  · next hn => simp [Nat.mod_eq_of_lt hn]
  · simp

theorem digit?_digitChar {d : Nat} (hd : d < 16) : digit? (Nat.digitChar d).toUInt8 = some d := by
  interval_cases d <;> rfl

theorem ofNat_ne_nil (n : Nat) : ofNat n ≠ [] := by
  simp [ofNat]

/-- The digits of a numeral read back, and denote the number that it was printed for. -/
theorem mapM_digit?_ofNat (n : Nat) :
    ∃ digits, (ofNat n).mapM digit? = some digits ∧
      digits.foldl (fun n d => 16 * n + d) 0 = n := by
  induction n using Nat.strongRecOn with
  | ind n ih =>
    have hlast := digit?_digitChar (Nat.mod_lt n (by decide : 16 > 0))
    rw [ofNat_eq]
    split
    · next hn => exact ⟨[n % 16], by simp [hlast], by simpa using Nat.mod_eq_of_lt hn⟩
    · obtain ⟨digits, hdigits, hvalue⟩ := ih (n / 16) (by omega)
      refine ⟨digits ++ [n % 16], by simp [hdigits, hlast], ?_⟩
      rw [List.foldl_append, hvalue]
      simp only [List.foldl_cons, List.foldl_nil]
      omega

/-- A numeral consists of digits. -/
theorem isSome_digit?_of_mem_ofNat {n : Nat} {c : UInt8} (hc : c ∈ ofNat n) :
    (digit? c).isSome = true := by
  induction n using Nat.strongRecOn with
  | ind n ih =>
    rw [ofNat_eq, List.mem_append, List.mem_singleton] at hc
    rcases hc with hc | rfl
    · split at hc
      · simp at hc
      · exact ih (n / 16) (by omega) hc
    · rw [digit?_digitChar (Nat.mod_lt n (by decide))]
      rfl

theorem length_ofNat_le {n : Nat} (hn : n < 65536) : (ofNat n).length ≤ 4 := by
  rw [ofNat, List.length_map, Nat.length_toDigits_le_iff (by decide) (by decide)]
  exact hn

end Hex

end LocalNet
