import LocalNet.Interface.LinkAddress
import LocalNet.Proofs.Numerals
import LocalNet.Proofs.Splitting
import LocalNet.Proofs.Traversals

/-!
# Texts of link-layer addresses

A link-layer address is written as pairs of hexadecimal digits of either case with one colon between
neighbours. Reading and printing are inverse to each other, apart from the case of the digits, on
the rows of octets that are not all zero.

- `Hex.Denotes`, `LinkAddress.Pair`: the digits, and the octets that are written with two of them;
- `LinkAddress.Written`: the texts of rows of octets;
- `LinkAddress.pairs?_eq_some_iff`: the rows that are read are those that are written;
- `LinkAddress.Written.withColons_eq`, `LinkAddress.written_withColons`: a row is printed as its
  text in lower case;
- `LinkAddress.parse_withColons_inverse`: what is read of a text, and of a row that was printed.
-/

namespace LocalNet

/-- The text with small letters in place of the capital letters `A` to `Z`. -/
def Text.lower (t : Text) : Text :=
  t.map fun c => if 'A'.toUInt8 ≤ c && c ≤ 'Z'.toUInt8 then c + 32 else c

/-! ## Digits of either case -/

namespace Hex

/-- An octet is the digit of a number below sixteen, in one of the two cases. -/
def Denotes (c : UInt8) (n : Nat) : Prop :=
  (Text.ofString "0123456789abcdef")[n]? = some c ∨
    (Text.ofString "0123456789ABCDEF")[n]? = some c

theorem Denotes.lt {c : UInt8} {n : Nat} (h : Denotes c n) : n < 16 := by
  rcases h with h | h <;> exact (List.getElem?_eq_some_iff.mp h).1

/-- The digit that is printed for a number is one of its digits. -/
theorem denotes_digitChar {n : Nat} (hn : n < 16) : Denotes (Nat.digitChar n).toUInt8 n := by
  -- Digits are printed in lower case.
  left
  interval_cases n <;> rfl

/-- In lower case each digit is the one that is printed. -/
theorem Denotes.lower_eq {c : UInt8} {n : Nat} (h : Denotes c n) :
    Text.lower [c] = [(Nat.digitChar n).toUInt8] := by
  have hn := h.lt
  rcases h with h | h <;> interval_cases n <;> cases h <;> rfl

/-- The octets of a range are counted from its start. -/
theorem exists_add_of_range {low high c : UInt8} (h : (low ≤ c && c ≤ high) = true) :
    ∃ k, k ≤ high.toNat - low.toNat ∧ c.toNat - low.toNat = k ∧ c = low + k.toUInt8 := by
  rw [Bool.and_eq_true, decide_eq_true_iff, decide_eq_true_iff, UInt8.le_iff_toNat_le,
    UInt8.le_iff_toNat_le] at h
  have hlt := c.toNat_lt
  -- The sum is an octet again, so that it does not wrap.
  refine ⟨c.toNat - low.toNat, by omega, rfl, UInt8.toNat_inj.mp ?_⟩
  simp only [UInt8.toNat_add, Nat.toUInt8, UInt8.toNat_ofNat']
  omega

/-- The digits are the octets to which reading gives a value. -/
theorem digit?_eq_some_iff {c : UInt8} {n : Nat} : digit? c = some n ↔ Denotes c n := by
  constructor
  · intro h
    unfold digit? at h
    -- There are three ranges, and each counts its digits from its start.
    split at h
    · next hrange =>
      obtain ⟨k, hk, hoffset, rfl⟩ := exists_add_of_range hrange
      rw [hoffset] at h
      obtain rfl := Option.some.inj h
      change k ≤ 9 at hk
      exact .inl (by interval_cases k <;> rfl)
    · split at h
      · next hrange =>
        obtain ⟨k, hk, hoffset, rfl⟩ := exists_add_of_range hrange
        rw [hoffset] at h
        obtain rfl := Option.some.inj h
        change k ≤ 5 at hk
        exact .inl (by interval_cases k <;> rfl)
      · split at h
        · next hrange =>
          obtain ⟨k, hk, hoffset, rfl⟩ := exists_add_of_range hrange
          rw [hoffset] at h
          obtain rfl := Option.some.inj h
          change k ≤ 5 at hk
          exact .inr (by interval_cases k <;> rfl)
        · cases h
  · intro h
    have hn := h.lt
    rcases h with h | h <;> interval_cases n <;> cases h <;> rfl

theorem withColons_singleton (b : UInt8) : withColons [b] = octet b :=
  List.intercalate_singleton

/-- A colon is behind each octet but the last. -/
theorem withColons_cons {octets : List UInt8} (hne : octets ≠ []) (b : UInt8) :
    withColons (b :: octets) = octet b ++ ':'.toUInt8 :: withColons octets := by
  rw [withColons, List.map_cons, List.intercalate_cons_of_ne_nil (List.map_eq_nil_iff.not.mpr hne),
    List.append_assoc, List.singleton_append, withColons]

end Hex

namespace LinkAddress

/-! ## Pairs of digits -/

/-- Two digits of either case, and the octet that they denote. -/
inductive Pair : Text → UInt8 → Prop
  /-- The first digit counts sixteens. -/
  | intro {high low : UInt8} {h l : Nat} (hhigh : Hex.Denotes high h) (hlow : Hex.Denotes low l) :
    Pair [high, low] (16 * h + l).toUInt8

theorem pair?_eq_some_iff {t : Text} {b : UInt8} : pair? t = some b ↔ Pair t b := by
  constructor
  · intro h
    unfold pair? at h
    split at h
    · next high low =>
      split at h
      · next hhigh hlow =>
        cases h
        exact .intro (Hex.digit?_eq_some_iff.mp hhigh) (Hex.digit?_eq_some_iff.mp hlow)
      · cases h
    · cases h
  · rintro ⟨hhigh, hlow⟩
    simp only [pair?, Hex.digit?_eq_some_iff.mpr hhigh, Hex.digit?_eq_some_iff.mpr hlow]

/-- The pair that is printed for an octet denotes it. -/
theorem pair_octet (b : UInt8) : Pair (Hex.octet b) b := by
  have hlt := b.toNat_lt
  have hpair := Pair.intro (Hex.denotes_digitChar (n := b.toNat / 16) (by omega))
    (Hex.denotes_digitChar (n := b.toNat % 16) (by omega))
  rw [Nat.div_add_mod] at hpair
  rwa [show b.toNat.toUInt8 = b from UInt8.ofNat_toNat] at hpair

/-- In lower case it is the only pair of the octet. -/
theorem Pair.lower_eq {t : Text} {b : UInt8} (h : Pair t b) : t.lower = Hex.octet b := by
  obtain @⟨high, low, h, l, hhigh, hlow⟩ := h
  have hh := hhigh.lt
  have hl := hlow.lt
  -- Two digits stay below 256, so that they are the quotient and the remainder by sixteen.
  have hvalue : (16 * h + l).toUInt8.toNat = 16 * h + l := by
    rw [Nat.toUInt8, UInt8.toNat_ofNat', Nat.mod_eq_of_lt (by omega)]
  have hdiv : (16 * h + l) / 16 = h := by omega
  have hmod : (16 * h + l) % 16 = l := by omega
  rw [Hex.octet, hvalue, hdiv, hmod]
  exact congrArg₂ (· ++ ·) hhigh.lower_eq hlow.lower_eq

/-- A colon is no digit. -/
theorem Pair.colon_notMem {t : Text} {b : UInt8} (h : Pair t b) : ':'.toUInt8 ∉ t := by
  have hcolon : ∀ n, ¬ Hex.Denotes ':'.toUInt8 n := by
    intro n hn
    cases Hex.digit?_eq_some_iff.mpr hn
  obtain ⟨hhigh, hlow⟩ := h
  rw [List.mem_pair]
  rintro (rfl | rfl)
  · exact hcolon _ hhigh
  · exact hcolon _ hlow

/-! ## Rows of octets -/

/-- Pairs of digits with one colon between neighbours, and the octets that they denote. -/
inductive Written : Text → List UInt8 → Prop
  /-- One pair stands alone. -/
  | last {t : Text} {b : UInt8} (hpair : Pair t b) : Written t [b]
  /-- A colon is between a pair and the next one. -/
  | more {t rest : Text} {b : UInt8} {octets : List UInt8} (hpair : Pair t b)
    (hrest : Written rest octets) : Written (t ++ ':'.toUInt8 :: rest) (b :: octets)

theorem Written.ne_nil {t : Text} {octets : List UInt8} (h : Written t octets) : octets ≠ [] := by
  cases h <;> exact List.cons_ne_nil _ _

/-- Pairs of digits that are joined by colons are the text of a row. -/
theorem written_intercalate {parts : List Text} {octets : List UInt8}
    (hpairs : List.Forall₂ Pair parts octets) (hne : parts ≠ []) :
    Written ([':'.toUInt8].intercalate parts) octets := by
  -- A colon is only put between a part and the parts that follow, hence the cases on these.
  induction hpairs with
  | nil => exact absurd rfl hne
  | @cons part b parts octets hpair hrest ih =>
    by_cases hparts : parts = []
    · subst hparts
      cases hrest
      rw [List.intercalate_singleton]
      exact .last hpair
    · rw [List.intercalate_cons_of_ne_nil hparts, List.append_assoc, List.singleton_append]
      exact .more hpair (ih hparts)

/-- The text of a row is cut at its colons into the pairs of the octets. -/
theorem written_iff {t : Text} {octets : List UInt8} :
    Written t octets ↔ List.Forall₂ Pair (Text.pieces (· == ':'.toUInt8) t) octets := by
  constructor
  · intro h
    -- No pair holds a colon, so that each colon is one between pairs.
    induction h with
    | last hpair =>
      rw [Text.pieces_of_notMem hpair.colon_notMem]
      exact .cons hpair .nil
    | more hpair hrest ih =>
      rw [Text.pieces_append_cons, Text.pieces_of_notMem hpair.colon_notMem]
      exact .cons hpair ih
  · intro h
    rw [← Text.intercalate_pieces ':'.toUInt8 t]
    exact written_intercalate h (Text.pieces_ne_nil _ t)

theorem pairs?_eq_some_iff {t : Text} {octets : List UInt8} :
    pairs? t = some octets ↔ Written t octets := by
  rw [pairs?, mapM_eq_some_iff, written_iff]
  simp only [pair?_eq_some_iff]

/-- A text is the text of one row. -/
theorem Written.unique {t : Text} {octets row : List UInt8} (h : Written t octets)
    (h' : Written t row) : octets = row :=
  Option.some.inj ((pairs?_eq_some_iff.mpr h).symm.trans (pairs?_eq_some_iff.mpr h'))

/-- A text in lower case is the printed form of its row. -/
theorem Written.withColons_eq {t : Text} {octets : List UInt8} (h : Written t octets) :
    Hex.withColons octets = t.lower := by
  induction h with
  | last hpair => rw [Hex.withColons_singleton, hpair.lower_eq]
  | more hpair hrest ih =>
    rw [Hex.withColons_cons hrest.ne_nil, ih, ← hpair.lower_eq]
    -- A colon has no other case.
    simp only [Text.lower, List.map_append, List.map_cons]
    rfl

/-- The printed form is a text of the row. -/
theorem written_withColons {octets : List UInt8} (hne : octets ≠ []) :
    Written (Hex.withColons octets) octets := by
  refine written_intercalate ?_ (List.map_eq_nil_iff.not.mpr hne)
  rw [List.forall₂_map_left_iff, List.forall₂_same]
  exact fun b _ => pair_octet b

/-! ## Reading -/

/-- What is read of a text is its row, if one of the octets is not zero. -/
theorem parse_eq_iff {t : Text} {octets : List UInt8} (hne : octets ≠ []) :
    parse t = octets ↔ Written t octets ∧ ∃ b ∈ octets, b ≠ 0 := by
  have hzeros : ∀ row : List UInt8, row.all (· == 0) = true ↔ ¬ ∃ b ∈ row, b ≠ 0 := by simp
  unfold parse
  cases hpairs : pairs? t with
  | none =>
    -- A text without pairs is the text of no row.
    constructor
    · intro h
      exact absurd h.symm hne
    · rintro ⟨hwritten, -⟩
      rw [pairs?_eq_some_iff.mpr hwritten] at hpairs
      cases hpairs
  | some row =>
    -- The text has this one row, and a row of zeros is read as no address.
    have hrow : Written t octets ↔ row = octets := by
      rw [← pairs?_eq_some_iff, hpairs, Option.some.injEq]
    rw [hrow]
    dsimp only
    split
    · next hall =>
      constructor
      · intro h
        exact absurd h.symm hne
      · rintro ⟨rfl, hnonzero⟩
        exact absurd hnonzero ((hzeros row).mp hall)
    · next hall =>
      have hnonzero : ∃ b ∈ row, b ≠ 0 := by
        rw [hzeros] at hall
        exact not_not.mp hall
      exact ⟨fun h => ⟨h, h ▸ hnonzero⟩, And.left⟩

/-- What is read of a printed row is the row, if one of its octets is not zero. -/
theorem parse_withColons (octets : List UInt8) :
    parse (Hex.withColons octets) = if ∃ b ∈ octets, b ≠ 0 then octets else [] := by
  split
  · next hnonzero =>
    have hne : octets ≠ [] := by
      rintro rfl
      simp at hnonzero
    exact (parse_eq_iff hne).mpr ⟨written_withColons hne, hnonzero⟩
  · next hzeros =>
    by_cases hne : octets = []
    · subst hne
      rfl
    · -- What is read of a text is its row, and this row is all zero.
      by_contra hread
      obtain ⟨hwritten, hnonzero⟩ := (parse_eq_iff hread).mp rfl
      rw [hwritten.unique (written_withColons hne)] at hnonzero
      exact hzeros hnonzero

/-- Reading gives a row just for the texts of rows that are not all zero, and that row is printed as
the text in lower case. A printed row is read back unless it is all zero. -/
theorem parse_withColons_inverse (t : Text) (octets : List UInt8) :
    (parse t ≠ [] ↔ ∃ row, Written t row ∧ ∃ b ∈ row, b ≠ 0) ∧
      (parse t ≠ [] → Written t (parse t) ∧ Hex.withColons (parse t) = t.lower) ∧
      parse (Hex.withColons octets) = if ∃ b ∈ octets, b ≠ 0 then octets else [] := by
  refine ⟨⟨fun h => ⟨parse t, (parse_eq_iff h).mp rfl⟩, ?_⟩, ?_, parse_withColons octets⟩
  · rintro ⟨row, hwritten, hnonzero⟩
    have hread := (parse_eq_iff hwritten.ne_nil).mpr ⟨hwritten, hnonzero⟩
    rw [hread]
    exact hwritten.ne_nil
  · intro h
    obtain ⟨hwritten, -⟩ := (parse_eq_iff h).mp rfl
    exact ⟨hwritten, hwritten.withColons_eq⟩

example : parse (Text.ofString "00:1A:2b") = [0x00, 0x1a, 0x2b] := by decide

example : parse (Text.ofString "00:1a:2") = [] := by decide

end LinkAddress

end LocalNet
