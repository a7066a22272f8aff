import LocalNet.Bits
import Mathlib.Data.List.Forall2
import Mathlib.Tactic.IntervalCases

/-!
# Rows of bits

Octets as rows of bits, most significant bit first, and what operations on octets do to these rows.

- `Bits.ofOctets_inj`: rows of octets are equal if their bits are;
- `Bits.ofOctets_onCommonStart`: an operation that works bit by bit, as far as both rows reach;
- `Bits.ofOctets_leadingOnes`: the octets of a mask with `n` ones in front;
- `Bits.eq_onesThenZeros_iff`: the rows of ones and then zeros;
- `Bits.zipWith_onesThenZeros`: such a mask keeps the first `n` bits and gives all others one value;
- `Bits.onCommonStart_and_le`, `Bits.le_onCommonStart_fill`: the order of rows of octets.
-/

namespace LocalNet.Bits

/-! ## Bits of octets -/

@[simp]
theorem length_ofOctet (b : UInt8) : (ofOctet b).length = 8 := by
  simp [ofOctet]

theorem ofOctet_inj {a b : UInt8} : ofOctet a = ofOctet b ↔ a = b := by
  constructor
  · intro h
    apply UInt8.toBitVec_inj.mp
    apply BitVec.eq_of_getMsbD_eq
    intro i hi
    have hbit := congrArg (·[i]?) h
    simpa [ofOctet, hi] using hbit
  · intro h
    rw [h]

@[simp]
theorem ofOctets_nil : ofOctets [] = [] := rfl

@[simp]
theorem ofOctets_cons (b : UInt8) (bs : List UInt8) : ofOctets (b :: bs) = ofOctet b ++ ofOctets bs :=
  rfl

@[simp]
theorem length_ofOctets (bs : List UInt8) : (ofOctets bs).length = 8 * bs.length := by
  induction bs with
  | nil => rfl
  | cons b bs ih =>
    rw [ofOctets_cons, List.length_append, length_ofOctet, ih, List.length_cons]
    omega

/-- The bits of a row determine its octets. -/
theorem ofOctets_inj {as bs : List UInt8} : ofOctets as = ofOctets bs ↔ as = bs := by
  constructor
  · intro h
    have hlength := congrArg List.length h
    simp only [length_ofOctets] at hlength
    induction as generalizing bs with
    | nil =>
      cases bs with
      | nil => rfl
      | cons b bs => simp at hlength
    | cons a as ih =>
      cases bs with
      | nil => simp at hlength
      | cons b bs =>
        -- The first eight bits are those of the first octet.
        obtain ⟨hfirst, hrest⟩ := List.append_inj h (by simp)
        simp only [List.length_cons] at hlength
        rw [ofOctet_inj.mp hfirst, ih hrest (by omega)]
  · intro h
    rw [h]

theorem ofOctets_take (bs : List UInt8) (n : Nat) :
    ofOctets (bs.take n) = (ofOctets bs).take (8 * n) := by
  induction bs generalizing n with
  | nil => simp
  | cons b bs ih =>
    cases n with
    | zero => rfl
    | succ n =>
      have hfirst : (ofOctet b).take (8 * n + 8) = ofOctet b := List.take_of_length_le (by simp)
      rw [List.take_succ_cons, ofOctets_cons, ih, ofOctets_cons, Nat.mul_succ, List.take_append,
        hfirst, length_ofOctet, Nat.add_sub_cancel]

theorem ofOctets_drop (bs : List UInt8) (n : Nat) :
    ofOctets (bs.drop n) = (ofOctets bs).drop (8 * n) := by
  induction bs generalizing n with
  | nil => simp
  | cons b bs ih =>
    cases n with
    | zero => rfl
    | succ n =>
      have hfirst : (ofOctet b).drop (8 * n + 8) = [] := List.drop_eq_nil_of_le (by simp)
      rw [List.drop_succ_cons, ih, ofOctets_cons, Nat.mul_succ, List.drop_append, hfirst,
        length_ofOctet, Nat.add_sub_cancel, List.nil_append]

/-! ## Operations that work bit by bit -/

/-- An operation on octets that does the same to each pair of bits. -/
def Bitwise (f : UInt8 → UInt8 → UInt8) (g : Bool → Bool → Bool) : Prop :=
  ∀ a b, ofOctet (f a b) = (ofOctet a).zipWith g (ofOctet b)

theorem bitwise_and : Bitwise (· &&& ·) (· && ·) := by
  intro a b
  apply List.ext_getElem
  · simp
  · intro i hi _
    simp [ofOctet]

theorem bitwise_fill : Bitwise (fun b m => b ||| ~~~m) (fun b m => b || !m) := by
  intro a b
  apply List.ext_getElem
  · simp
  · intro i hi _
    have hlt : i < 8 := by simpa using hi
    simp [ofOctet, hlt]

/-! ## Operations under one mask -/

theorem fill_and (b m : UInt8) : (b ||| ~~~m) &&& m = b &&& m := by
  apply UInt8.toBitVec_inj.mp
  apply BitVec.eq_of_getElem_eq
  intro i hi
  simp [Bool.and_or_distrib_right]

theorem and_fill (b m : UInt8) : (b &&& m) ||| ~~~m = b ||| ~~~m := by
  apply UInt8.toBitVec_inj.mp
  apply BitVec.eq_of_getElem_eq
  intro i hi
  simp [Bool.or_and_distrib_right]

theorem fill_fill (b m : UInt8) : b ||| ~~~m ||| ~~~m = b ||| ~~~m := by
  rw [UInt8.or_assoc, UInt8.or_self]

/-- If an operation on octets does not see what another one has done under the same mask, the same
holds of rows, as far as the mask reaches. -/
theorem onCommonStart_onCommonStart {f f' : UInt8 → UInt8 → UInt8}
    (h : ∀ b m, f (f' b m) m = f b m) (bs ms : List UInt8) :
    onCommonStart f (onCommonStart f' bs ms) ms = onCommonStart f bs ms := by
  induction bs generalizing ms with
  | nil => cases ms <;> rfl
  | cons b bs ih =>
    cases ms with
    | nil => rfl
    | cons m ms => rw [onCommonStart, onCommonStart, onCommonStart, h, ih]

/-- A mask with only ones in its first octet leaves the first octet of a row alone. -/
theorem head?_onCommonStart_fill {ms : List UInt8} (hones : ∀ m ∈ ms.head?, m = 0xff)
    (bs : List UInt8) :
    (onCommonStart (fun b m => b ||| ~~~m) bs ms).head? = bs.head? := by
  cases bs with
  | nil => cases ms <;> rfl
  | cons b bs =>
    cases ms with
    | nil => rfl
    | cons m ms =>
      obtain rfl : m = 0xff := hones m rfl
      rw [onCommonStart, List.head?_cons, List.head?_cons, show ~~~(0xff : UInt8) = 0 from rfl,
        UInt8.or_zero]

/-! ## Rows under a mask -/

variable {f : UInt8 → UInt8 → UInt8} {g : Bool → Bool → Bool}

theorem ofOctets_zipWith (h : Bitwise f g) (as bs : List UInt8) :
    ofOctets (as.zipWith f bs) = (ofOctets as).zipWith g (ofOctets bs) := by
  induction as generalizing bs with
  | nil => simp
  | cons a as ih =>
    cases bs with
    | nil => simp
    | cons b bs =>
      rw [List.zipWith_cons_cons, ofOctets_cons, h, ih, ofOctets_cons, ofOctets_cons,
        List.zipWith_append (by simp)]

theorem onCommonStart_eq (bs ms : List UInt8) :
    onCommonStart f bs ms = bs.zipWith f ms ++ bs.drop ms.length := by
  induction bs generalizing ms with
  | nil => cases ms <;> simp [onCommonStart]
  | cons b bs ih =>
    cases ms with
    | nil => simp [onCommonStart]
    | cons m ms => simp [onCommonStart, ih]

/-- The bits of a row that a mask changes as far as it reaches. -/
theorem ofOctets_onCommonStart (h : Bitwise f g) (bs ms : List UInt8) :
    ofOctets (onCommonStart f bs ms) =
      (ofOctets bs).zipWith g (ofOctets ms) ++ (ofOctets bs).drop (ofOctets ms).length := by
  rw [onCommonStart_eq, ← ofOctets_zipWith h, length_ofOctets, ← ofOctets_drop]
  exact List.flatMap_append

/-- A bit is changed if the mask reaches it. -/
theorem getElem?_zipWith_append_drop (as ms : List Bool) (k : Nat) :
    (as.zipWith g ms ++ as.drop ms.length)[k]? =
      as[k]?.map fun b => (ms[k]?.map (g b)).getD b := by
  induction as generalizing ms k with
  | nil => simp
  | cons a as ih =>
    cases ms with
    | nil => simp
    | cons m ms =>
      cases k with
      | zero => simp
      | succ k => simpa using ih ms k

theorem getElem?_replicate_append {m n k : Nat} (x y : Bool) (hk : k < m + n) :
    (List.replicate m x ++ List.replicate n y)[k]? = some (if k < m then x else y) := by
  rw [List.getElem?_append]
  simp only [List.length_replicate, List.getElem?_replicate]
  split
  · rfl
  · rw [if_pos (by omega)]

/-- A row starts with bits of one value and then bits of another. -/
theorem take_eq_replicate_append_iff {bs : List Bool} {m n : Nat} {x y : Bool} :
    bs.take (m + n) = List.replicate m x ++ List.replicate n y ↔
      (∀ k < m, bs[k]? = some x) ∧ ∀ k, m ≤ k → k < m + n → bs[k]? = some y := by
  constructor
  · intro h
    -- Within the length taken, the bits are those of the two runs.
    have hstart (k : Nat) (hk : k < m + n) : bs[k]? = some (if k < m then x else y) := by
      rw [← getElem?_replicate_append x y hk, ← h, List.getElem?_take_of_lt hk]
    refine ⟨fun k hk => ?_, fun k hle hk => ?_⟩
    · rw [hstart k (by omega), if_pos hk]
    · rw [hstart k hk, if_neg (by omega)]
  · rintro ⟨hfirst, hsecond⟩
    apply List.ext_getElem?
    intro k
    -- Behind the two runs neither side has a bit.
    by_cases hk : k < m + n
    · rw [List.getElem?_take_of_lt hk, getElem?_replicate_append x y hk]
      split
      · next hlt => exact hfirst k hlt
      · next hge => exact hsecond k (Nat.le_of_not_lt hge) hk
    · rw [List.getElem?_eq_none (by simp; omega), List.getElem?_eq_none (by simp; omega)]

/-! ## Leading ones -/

theorem ofOctet_leadingOnes (n : Nat) :
    ofOctet (leadingOnes n) = List.replicate (min n 8) true ++ List.replicate (8 - n) false := by
  by_cases hn : n < 8
  · -- Eight octets, each computed.
    interval_cases n <;> rfl
  · -- From eight ones on, the shift takes nothing away.
    have hones : leadingOnes n = 255 := by
      have hshift : 255 >>> n = 0 := by
        rw [Nat.shiftRight_eq_div_pow]
        exact Nat.div_eq_of_lt (Nat.lt_of_lt_of_le (by decide : 255 < 2 ^ 8)
          (Nat.pow_le_pow_right (by decide) (Nat.le_of_not_lt hn)))
      rw [leadingOnes, hshift]
      rfl
    have hmin : min n 8 = 8 := by omega
    have hzero : 8 - n = 0 := by omega
    rw [hones, hmin, hzero]
    rfl

/-- A row of `n` ones and then zeros. -/
def onesThenZeros (n length : Nat) : List Bool :=
  List.replicate n true ++ List.replicate (length - n) false

theorem length_onesThenZeros (n length : Nat) :
    (onesThenZeros n length).length = n + (length - n) := by
  rw [onesThenZeros, List.length_append, List.length_replicate, List.length_replicate]

/-- A bit of ones and then zeros is one if it is among the first. -/
theorem getElem?_onesThenZeros {n length k : Nat} (hk : k < length) :
    (onesThenZeros n length)[k]? = some (decide (k < n)) := by
  rw [onesThenZeros, getElem?_replicate_append true false (by omega)]
  by_cases h : k < n <;> simp [h]

theorem onesThenZeros_zero (length : Nat) :
    onesThenZeros 0 (length + 1) = false :: onesThenZeros 0 length := by
  simp [onesThenZeros, List.replicate_succ]

theorem onesThenZeros_succ (n length : Nat) :
    onesThenZeros (n + 1) (length + 1) = true :: onesThenZeros n length := by
  simp [onesThenZeros, List.replicate_succ]

/-- A row is ones and then zeros if nothing behind its leading ones is one. -/
theorem eq_onesThenZeros_iff {bits : List Bool} {n : Nat} :
    bits = onesThenZeros n bits.length ↔
      (bits.takeWhile id).length = n ∧ (bits.drop n).all (!·) = true := by
  induction bits generalizing n with
  | nil => cases n <;> simp [onesThenZeros, List.replicate_succ]
  | cons b bits ih =>
    cases n with
    | zero =>
      have hzeros : bits.all (!·) = true → (bits.takeWhile id).length = 0 := by
        intro h
        cases bits <;> simp_all
      rw [List.length_cons, onesThenZeros_zero, List.cons_eq_cons, ih]
      cases b <;> simp_all
    | succ n =>
      rw [List.length_cons, onesThenZeros_succ, List.cons_eq_cons, ih]
      cases b <;> simp

/-- The octets of a mask whose first `n` bits are one. -/
theorem ofOctets_leadingOnes {n size : Nat} (hn : n ≤ 8 * size) :
    ofOctets ((List.range size).map fun i => leadingOnes (n - 8 * i)) =
      onesThenZeros n (8 * size) := by
  induction size generalizing n with
  | zero =>
    have hzero : n = 0 := by omega
    subst hzero
    rfl
  | succ size ih =>
    have hrest : (List.range size).map (fun i => leadingOnes (n - 8 * (i + 1))) =
        (List.range size).map fun i => leadingOnes (n - 8 - 8 * i) := by
      apply List.map_congr_left
      intro i _
      congr 1
      omega
    rw [List.range_succ_eq_map, List.map_cons, List.map_map, ofOctets_cons, Function.comp_def]
    simp only [Nat.succ_eq_add_one, Nat.mul_zero, Nat.sub_zero]
    -- Behind the first octet stands a mask with eight ones less, to which the hypothesis applies.
    rw [hrest, ih (by omega), ofOctet_leadingOnes, onesThenZeros, onesThenZeros]
    -- Either the first octet has zeros, and then no ones follow, or it has none.
    by_cases hn8 : n ≤ 8
    · have hmin : min n 8 = n := by omega
      have hnone : n - 8 = 0 := by omega
      have hzeros : 8 * (size + 1) - n = (8 - n) + (8 * size - 0) := by omega
      rw [hmin, hnone, hzeros, List.replicate_zero, List.nil_append, List.append_assoc,
        List.replicate_append_replicate]
    · have hmin : min n 8 = 8 := by omega
      have hnone : 8 - n = 0 := by omega
      have hones : n = 8 + (n - 8) := by omega
      have hzeros : 8 * (size + 1) - n = 8 * size - (n - 8) := by omega
      rw [hmin, hnone, hzeros, List.replicate_zero, List.append_nil, ← List.append_assoc,
        List.replicate_append_replicate, ← hones]

/-- Ones and then zeros keep the first bits and give all others one value. -/
theorem zipWith_onesThenZeros {c : Bool} (hone : ∀ b, g b true = b) (hzero : ∀ b, g b false = c)
    {bs : List Bool} {n : Nat} (hn : n ≤ bs.length) :
    bs.zipWith g (onesThenZeros n bs.length) = bs.take n ++ List.replicate (bs.length - n) c := by
  induction bs generalizing n with
  | nil => simp
  | cons b bs ih =>
    cases n with
    | zero =>
      have hrest := ih (Nat.zero_le bs.length)
      rw [List.take_zero, List.nil_append, Nat.sub_zero] at hrest ⊢
      rw [List.length_cons, onesThenZeros_zero, List.zipWith_cons_cons, hzero, hrest,
        List.replicate_succ]
    | succ n =>
      rw [List.length_cons, onesThenZeros_succ, List.zipWith_cons_cons, hone,
        ih (Nat.le_of_succ_le_succ hn), List.take_succ_cons, Nat.add_sub_add_right, List.cons_append]

/-! ## Order -/

/-- Rows are ordered like their octets. -/
theorem onCommonStart_mono {f' : UInt8 → UInt8 → UInt8} (h : ∀ b m, f b m ≤ f' b m)
    (bs ms : List UInt8) : onCommonStart f bs ms ≤ onCommonStart f' bs ms := by
  induction bs generalizing ms with
  | nil => cases ms <;> exact List.le_refl []
  | cons b bs ih =>
    cases ms with
    | nil => exact List.le_refl (b :: bs)
    | cons m ms =>
      rw [onCommonStart, onCommonStart, List.cons_le_cons_iff]
      -- The first octets decide, unless they are the same.
      by_cases heq : f b m = f' b m
      · exact .inr ⟨heq, ih ms⟩
      · exact .inl (UInt8.lt_of_le_of_ne (h b m) heq)

theorem onCommonStart_fst (bs ms : List UInt8) : onCommonStart (fun b _ => b) bs ms = bs := by
  induction bs generalizing ms with
  | nil => cases ms <;> rfl
  | cons b bs ih =>
    cases ms with
    | nil => rfl
    | cons m ms => rw [onCommonStart, ih]

/-- Clearing bits makes no row greater. -/
theorem onCommonStart_and_le (bs ms : List UInt8) : onCommonStart (· &&& ·) bs ms ≤ bs := by
  have hle (b m : UInt8) : b &&& m ≤ b := by
    rw [UInt8.le_iff_toNat_le, UInt8.toNat_and]
    exact Nat.and_le_left
  simpa only [onCommonStart_fst] using onCommonStart_mono hle bs ms

/-- Setting bits makes no row smaller. -/
theorem le_onCommonStart_fill (bs ms : List UInt8) :
    bs ≤ onCommonStart (fun b m => b ||| ~~~m) bs ms := by
  have hle (b m : UInt8) : b ≤ b ||| ~~~m := by
    rw [UInt8.le_iff_toNat_le, UInt8.toNat_or]
    exact Nat.left_le_or
  simpa only [onCommonStart_fst] using onCommonStart_mono hle bs ms

end LocalNet.Bits
