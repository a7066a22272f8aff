import LocalNet.Address.Parser
import LocalNet.Proofs.Printing
import LocalNet.Proofs.Traversals

/-!
# Printed addresses read back

What `Address.parse?` makes of the text of an address is that address, so that different addresses
have different texts.

- `Address.dotted?_dotted`, `Address.dotted?_eq_none`: only IPv4 addresses are read as such;
- `Address.cutDoubleColon?_colonHex_append`: two adjacent colons are nowhere but where a run of zero
  groups was left out;
- `Address.eq_append_longestZeroRun`: the groups that are left out are zero;
- `Address.sixteen?_compressed`: the reader of IPv6 addresses undoes the printer;
- `Address.toText_round_trip`: so does the reader of all addresses.
-/

namespace LocalNet.Address

/-! ## Dotted numerals -/

theorem octet?_ofNat (b : UInt8) : octet? (Decimal.ofNat b.toNat) = some b := by
  have hle : b.toNat ≤ 255 := Nat.le_of_lt_succ b.toNat_lt
  have hcanonical := Decimal.canonical_ofNat b.toNat
  simp [octet?, Decimal.nat?_ofNat, hle, hcanonical]

theorem dot_notMem_ofNat (n : Nat) : '.'.toUInt8 ∉ Decimal.ofNat n := by
  intro hmem
  exact absurd (Decimal.isDigit_of_mem_ofNat hmem) (by decide)

theorem dot_mem_dotted {octets : List UInt8} (hlength : 2 ≤ octets.length) :
    '.'.toUInt8 ∈ dotted octets := by
  match octets with
  | [] | [_] => simp at hlength
  | b :: b' :: octets =>
    rw [dotted, List.map_cons, List.intercalate_cons_of_ne_nil (by simp)]
    simp

/-- Four octets are read back from their numerals. -/
theorem dotted?_dotted {octets : List UInt8} (hlength : octets.length = 4) :
    dotted? (dotted octets) = some octets := by
  have hne : (octets.map fun b => Decimal.ofNat b.toNat) ≠ [] := by
    intro hnil
    simp_all
  have hparts : ∀ part ∈ octets.map fun b => Decimal.ofNat b.toNat, '.'.toUInt8 ∉ part := by
    intro part hpart
    obtain ⟨b, -, rfl⟩ := List.mem_map.mp hpart
    exact dot_notMem_ofNat b.toNat
  rw [dotted?, dotted, Text.pieces_intercalate hparts hne]
  simp only [List.length_map, hlength, ↓reduceIte]
  simpa using mapM_map_eq_some (k := id) fun b (_ : b ∈ octets) => octet?_ofNat b

/-- A text with an octet that is no digit is not a decimal numeral. -/
theorem octet?_eq_none {t : Text} {c : UInt8} (hmem : c ∈ t) (hc : Decimal.isDigit c = false) :
    octet? t = none := by
  have hall : t.all Decimal.isDigit = false :=
    List.all_eq_false.mpr ⟨c, hmem, by simp [hc]⟩
  simp [octet?, Decimal.nat?, hall]

/-- A text with an octet other than digits and dots is not an IPv4 address. -/
theorem dotted?_eq_none {t : Text} {c : UInt8} (hmem : c ∈ t) (hc : Decimal.isDigit c = false)
    (hdot : c ≠ '.'.toUInt8) : dotted? t = none := by
  -- The octet is in one of the parts between dots, and that part is not a numeral.
  obtain ⟨part, hpart, hmem⟩ := (Text.exists_piece_of_mem '.'.toUInt8 hmem).resolve_left hdot
  rw [dotted?, mapM_eq_none hpart (octet?_eq_none hmem hc)]
  exact ite_self none

/-- A text with a colon is not an IPv4 address. -/
theorem dotted?_of_colon {t : Text} (ht : ':'.toUInt8 ∈ t) : dotted? t = none :=
  dotted?_eq_none ht (by decide) (by decide)

/-! ## Groups -/

/-- The two octets of a group. -/
def groupOctets (g : Nat) : List UInt8 :=
  [(g / 256).toUInt8, (g % 256).toUInt8]

/-- A group is read back from its numeral. -/
theorem group?_ofNat {g : Nat} (hg : g < 65536) : group? (Hex.ofNat g) = some (groupOctets g) := by
  obtain ⟨digits, hdigits, hvalue⟩ := Hex.mapM_digit?_ofNat g
  have hpos : 1 ≤ (Hex.ofNat g).length := List.length_pos_iff.mpr (Hex.ofNat_ne_nil g)
  have hle : (Hex.ofNat g).length ≤ 4 := Hex.length_ofNat_le hg
  simp [group?, hpos, hle, hdigits, hvalue, groupOctets]

theorem group?_eq_none {t : Text} {c : UInt8} (hmem : c ∈ t) (hc : Hex.digit? c = none) :
    group? t = none := by
  rw [group?, mapM_eq_none hmem hc]
  exact ite_self none

theorem groups_lt (octets : List UInt8) : ∀ g ∈ groups octets, g < 65536 := by
  induction octets using groups.induct with
  | case1 high low rest ih =>
    have hhigh := high.toNat_lt
    have hlow := low.toNat_lt
    rw [groups]
    exact List.forall_mem_cons.mpr ⟨by omega, ih⟩
  | case2 octets h =>
    rw [groups.eq_2 octets h]
    simp

/-- An even number of octets consists of the octets of its groups. -/
theorem flatMap_groupOctets_groups {octets : List UInt8} (heven : octets.length % 2 = 0) :
    (groups octets).flatMap groupOctets = octets := by
  induction octets using groups.induct with
  | case1 high low rest ih =>
    have hhigh := high.toNat_lt
    have hlow := low.toNat_lt
    have hrest : rest.length % 2 = 0 := by
      simp only [List.length_cons] at heven
      omega
    have hdiv : (high.toNat * 256 + low.toNat) / 256 = high.toNat := by omega
    have hmod : (high.toNat * 256 + low.toNat) % 256 = low.toNat := by omega
    rw [groups, List.flatMap_cons, ih hrest, groupOctets, hdiv, hmod]
    simp
  | case2 octets h =>
    match octets with
    | [] => rfl
    | [_] => simp at heven
    | high :: low :: rest => exact absurd rfl (h high low rest)

theorem length_groups (octets : List UInt8) : (groups octets).length = octets.length / 2 := by
  induction octets using groups.induct with
  | case1 high low rest ih =>
    rw [groups, List.length_cons, ih, List.length_cons, List.length_cons]
    omega
  | case2 octets h =>
    match octets with
    | [] => rfl
    | [_] => simp [groups]
    | high :: low :: rest => exact absurd rfl (h high low rest)

theorem length_flatMap_groupOctets (gs : List Nat) :
    (gs.flatMap groupOctets).length = 2 * gs.length := by
  induction gs with
  | nil => rfl
  | cons g gs ih =>
    rw [List.flatMap_cons, List.length_append, ih, List.length_cons]
    simp only [groupOctets, List.length_cons, List.length_nil]
    omega

/-! ## Groups between colons -/

theorem colon_notMem_ofNat (g : Nat) : ':'.toUInt8 ∉ Hex.ofNat g := by
  intro hmem
  exact absurd (Hex.isSome_digit?_of_mem_ofNat hmem) (by decide)

@[simp]
theorem colonHex_nil : colonHex [] = [] := rfl

theorem colonHex_cons {g : Nat} {gs : List Nat} (hgs : gs ≠ []) :
    colonHex (g :: gs) = Hex.ofNat g ++ [':'.toUInt8] ++ colonHex gs := by
  have hmap : gs.map Hex.ofNat ≠ [] := by simpa using hgs
  rw [colonHex, List.map_cons, List.intercalate_cons_of_ne_nil hmap, colonHex]

theorem colonHex_ne_nil {gs : List Nat} (hgs : gs ≠ []) : colonHex gs ≠ [] := by
  match gs with
  | [] => exact absurd rfl hgs
  | [g] => simp [colonHex, Hex.ofNat_ne_nil]
  | g :: h :: gs => simp [colonHex_cons]

/-- Groups between colons do not start with a colon. -/
theorem head?_colonHex_ne (gs : List Nat) : (colonHex gs).head? ≠ some ':'.toUInt8 := by
  cases gs with
  | nil => simp
  | cons g gs =>
    have hhead : (colonHex (g :: gs)).head? = (Hex.ofNat g).head? := by
      by_cases hgs : gs = []
      · simp [hgs, colonHex]
      · rw [colonHex_cons hgs, List.append_assoc, List.head?_append,
          Option.or_of_isSome (by simp [Hex.ofNat_ne_nil])]
    rw [hhead]
    intro h
    exact colon_notMem_ofNat g (List.mem_of_head? h)

theorem colonParts_colonHex (gs : List Nat) : colonParts (colonHex gs) = gs.map Hex.ofNat := by
  cases gs with
  | nil => rfl
  | cons g gs =>
    have hparts : ∀ part ∈ (g :: gs).map Hex.ofNat, ':'.toUInt8 ∉ part := by
      intro part hpart
      obtain ⟨g, -, rfl⟩ := List.mem_map.mp hpart
      exact colon_notMem_ofNat g
    have hne : colonHex (g :: gs) ≠ [] := colonHex_ne_nil (List.cons_ne_nil g gs)
    rw [colonParts, if_neg (by simpa using hne)]
    exact Text.pieces_intercalate hparts (by simp)

/-- Groups are read back from their numerals. -/
theorem mapM_group?_ofNat {gs : List Nat} (hgs : ∀ g ∈ gs, g < 65536) :
    (gs.map Hex.ofNat).mapM group? = some (gs.map groupOctets) :=
  mapM_map_eq_some fun g hg => group?_ofNat (hgs g hg)

/-- Groups, and what the last part stands for, are read back. -/
theorem groupsAndTail?_append {gs : List Nat} (hgs : ∀ g ∈ gs, g < 65536) {parts : List Text}
    {tail : List UInt8} (hparts : groupsAndTail? parts = some tail) :
    groupsAndTail? (gs.map Hex.ofNat ++ parts) = some (gs.flatMap groupOctets ++ tail) := by
  induction gs with
  | nil => simpa using hparts
  | cons g gs ih =>
    obtain ⟨hg, hgs⟩ := List.forall_mem_cons.mp hgs
    have hrest := ih hgs
    rw [List.map_cons, List.cons_append, List.flatMap_cons, List.append_assoc]
    -- The reader treats the last part apart, so it matters whether any part follows.
    cases hcases : gs.map Hex.ofNat ++ parts with
    | nil =>
      rw [hcases, groupsAndTail?, Option.some.injEq] at hrest
      rw [groupsAndTail?, group?_ofNat hg, ← hrest, List.append_nil]
      rfl
    | cons part rest =>
      rw [hcases] at hrest
      rw [groupsAndTail?, group?_ofNat hg, hrest]
      simp

theorem groupsAndTail?_map_ofNat {gs : List Nat} (hgs : ∀ g ∈ gs, g < 65536) :
    groupsAndTail? (gs.map Hex.ofNat) = some (gs.flatMap groupOctets) := by
  simpa using groupsAndTail?_append hgs (show groupsAndTail? [] = some [] from rfl)

/-- Four dotted numerals are no group, so the last part is read as octets. -/
theorem groupsAndTail?_dotted {octets : List UInt8} (hlength : octets.length = 4) :
    groupsAndTail? [dotted octets] = some octets := by
  rw [groupsAndTail?, group?_eq_none (dot_mem_dotted (by omega)) (by decide),
    dotted?_dotted hlength]
  rfl

/-! ## The mark of omitted groups -/

/-- A colon before another octet than a colon is no mark. -/
theorem cutDoubleColon?_cons {c : UInt8} {t : Text}
    (h : ¬ (c = ':'.toUInt8 ∧ t.head? = some ':'.toUInt8)) :
    cutDoubleColon? (c :: t) =
      (cutDoubleColon? t).map fun (before, after) => (c :: before, after) := by
  cases t with
  | nil => rfl
  | cons d t =>
    rw [cutDoubleColon?, if_neg (by simpa using h)]

theorem cutDoubleColon?_append {t : Text} (ht : ':'.toUInt8 ∉ t) (rest : Text) :
    cutDoubleColon? (t ++ rest) =
      (cutDoubleColon? rest).map fun (before, after) => (t ++ before, after) := by
  induction t with
  | nil => simp
  | cons c t ih =>
    rw [List.mem_cons, not_or] at ht
    obtain ⟨hc, ht⟩ := ht
    rw [List.cons_append, cutDoubleColon?_cons (fun h => hc h.1.symm), ih ht, Option.map_map]
    rfl

/-- Groups between colons hold no mark, and none begins at their end. -/
theorem cutDoubleColon?_colonHex_append (gs : List Nat) (rest : Text) :
    cutDoubleColon? (colonHex gs ++ rest) =
      (cutDoubleColon? rest).map fun (before, after) => (colonHex gs ++ before, after) := by
  induction gs with
  | nil => simp
  | cons g gs ih =>
    by_cases hgs : gs = []
    · subst hgs
      have hone : colonHex [g] = Hex.ofNat g := by simp [colonHex]
      -- A numeral holds no colon, so a mark can only begin behind it.
      rw [hone, cutDoubleColon?_append (colon_notMem_ofNat g)]
    · have hhead : (colonHex gs ++ rest).head? ≠ some ':'.toUInt8 := by
        rw [List.head?_append, Option.or_of_isSome (by simp [colonHex_ne_nil hgs])]
        exact head?_colonHex_ne gs
      rw [colonHex_cons hgs, List.append_assoc, List.append_assoc,
        cutDoubleColon?_append (colon_notMem_ofNat g), List.singleton_append,
        cutDoubleColon?_cons (fun h => hhead h.2), ih, Option.map_map, Option.map_map]
      congr 1
      ext ⟨before, after⟩ : 1
      simp

/-! ## The omitted groups -/

/-- As many zeros as a list starts with come off its front. -/
theorem eq_replicate_append_drop {gs : List Nat} {n : Nat}
    (hn : n ≤ (gs.takeWhile (· == 0)).length) : gs = List.replicate n 0 ++ gs.drop n := by
  induction gs generalizing n with
  | nil => simp_all
  | cons g gs ih =>
    cases n with
    | zero => simp
    | succ n =>
      rw [List.takeWhile_cons] at hn
      split at hn
      · next hg =>
        have hzero : g = 0 := by simpa using hg
        rw [List.replicate_succ, List.cons_append, List.drop_succ_cons, hzero]
        exact congrArg (0 :: ·) (ih (by simpa using hn))
      · simp at hn

/-- The longest run is no longer than the zeros at its position. -/
theorem longestZeroRun_le (gs : List Nat) :
    (longestZeroRun gs).2 ≤ zerosFrom gs (longestZeroRun gs).1 := by
  -- Each position that is tried keeps this true of the best run so far.
  have hfold (positions : List Nat) (best : Nat × Nat) (hbest : best.2 ≤ zerosFrom gs best.1) :
      (positions.foldl (fun best i =>
        if best.2 < zerosFrom gs i then (i, zerosFrom gs i) else best) best).2 ≤
      zerosFrom gs (positions.foldl (fun best i =>
        if best.2 < zerosFrom gs i then (i, zerosFrom gs i) else best) best).1 := by
    induction positions generalizing best with
    | nil => exact hbest
    | cons i positions ih =>
      rw [List.foldl_cons]
      split
      · exact ih (i, zerosFrom gs i) (Nat.le_refl _)
      · exact ih best hbest
  exact hfold (List.range gs.length) (0, 0) (Nat.zero_le _)

/-- The groups of the longest run are zero. -/
theorem eq_append_longestZeroRun {gs : List Nat} {start length : Nat}
    (hrun : longestZeroRun gs = (start, length)) :
    gs = gs.take start ++ (List.replicate length 0 ++ gs.drop (start + length)) := by
  have hle : length ≤ ((gs.drop start).takeWhile (· == 0)).length := by
    simpa only [hrun, zerosFrom] using longestZeroRun_le gs
  have hzeros := eq_replicate_append_drop hle
  rw [List.drop_drop] at hzeros
  rw [← hzeros, List.take_append_drop]

theorem flatMap_groupOctets_zeros (n : Nat) :
    (List.replicate n 0).flatMap groupOctets = List.replicate (2 * n) 0 := by
  induction n with
  | zero => rfl
  | succ n ih =>
    rw [List.replicate_succ, List.flatMap_cons, ih, Nat.mul_succ, List.replicate_succ,
      List.replicate_succ]
    rfl

/-! ## IPv6 addresses -/

/-- A text with a mark stands for the groups before it, zeros, and what stands behind it. -/
theorem sixteen?_marked {left : List Nat} (hleft : ∀ g ∈ left, g < 65536) {rest : Text}
    {right : List UInt8} (hright : groupsAndTail? (colonParts rest) = some right)
    (hroom : 2 * left.length + right.length ≤ 14) :
    sixteen? (colonHex left ++ (Text.ofString "::" ++ rest)) =
      some (left.flatMap groupOctets ++
        List.replicate (16 - (2 * left.length + right.length)) 0 ++ right) := by
  have hmark : cutDoubleColon? (Text.ofString "::" ++ rest) = some ([], rest) := rfl
  have hflat : (left.map groupOctets).flatten = left.flatMap groupOctets := rfl
  simp only [sixteen?, cutDoubleColon?_colonHex_append, hmark, Option.map_some, List.append_nil,
    colonParts_colonHex, mapM_group?_ofNat hleft, hright, hflat, length_flatMap_groupOctets,
    if_pos hroom]

/-- A text without a mark stands for its groups. -/
theorem sixteen?_colonHex {gs : List Nat} (hgs : ∀ g ∈ gs, g < 65536) (hlength : gs.length = 8) :
    sixteen? (colonHex gs) = some (gs.flatMap groupOctets) := by
  have hnone : cutDoubleColon? (colonHex gs) = none := by
    simpa [cutDoubleColon?] using cutDoubleColon?_colonHex_append gs []
  have hsixteen : (gs.flatMap groupOctets).length = 16 := by
    rw [length_flatMap_groupOctets, hlength]
  simp [sixteen?, hnone, colonParts_colonHex, groupsAndTail?_map_ofNat hgs, hsixteen]

theorem colon_notMem_dotted (octets : List UInt8) : ':'.toUInt8 ∉ dotted octets := by
  intro hmem
  rcases Text.mem_intercalate hmem with hsep | ⟨part, hpart, hmem⟩
  · exact absurd hsep (by decide)
  · obtain ⟨b, -, rfl⟩ := List.mem_map.mp hpart
    exact absurd (Decimal.isDigit_of_mem_ofNat hmem) (by decide)

theorem colonParts_dotted {octets : List UInt8} (hlength : octets.length = 4) :
    colonParts (dotted octets) = [dotted octets] := by
  have hne : dotted octets ≠ [] := List.ne_nil_of_mem (dot_mem_dotted (by omega))
  have hparts : ∀ part ∈ [dotted octets], ':'.toUInt8 ∉ part := by
    simpa using colon_notMem_dotted octets
  have hpieces := Text.pieces_intercalate hparts (List.cons_ne_nil _ _)
  rw [List.intercalate_singleton] at hpieces
  rw [colonParts, if_neg (by simpa using hne), hpieces]

theorem colonParts_mapped_dotted (octets : List UInt8) :
    colonParts (Text.ofString "ffff:" ++ dotted octets) = [Hex.ofNat 0xffff, dotted octets] := by
  have hparts : ∀ part ∈ [Hex.ofNat 0xffff, dotted octets], ':'.toUInt8 ∉ part := by
    simpa using ⟨colon_notMem_ofNat 0xffff, colon_notMem_dotted octets⟩
  have hjoined : Text.ofString "ffff:" ++ dotted octets =
      [':'.toUInt8].intercalate [Hex.ofNat 0xffff, dotted octets] := by
    rw [List.intercalate_cons_of_ne_nil (List.cons_ne_nil _ _), List.intercalate_singleton]
    rfl
  rw [hjoined, colonParts, Text.pieces_intercalate hparts (List.cons_ne_nil _ _), ← hjoined]
  rfl

/-- Zeros and a dotted ending are read back. -/
theorem sixteen?_dotted {octets tail : List UInt8} (htail : tail.length = 4)
    (hoctets : octets = List.replicate 12 0 ++ tail) :
    sixteen? (Text.ofString "::" ++ dotted tail) = some octets := by
  have hright : groupsAndTail? (colonParts (dotted tail)) = some tail := by
    rw [colonParts_dotted htail, groupsAndTail?_dotted htail]
  have hread := sixteen?_marked (List.forall_mem_nil (· < 65536)) hright (by simp [htail])
  simpa [htail, hoctets] using hread

/-- Zeros, a group of ones and a dotted ending are read back. -/
theorem sixteen?_mapped_dotted {octets tail : List UInt8} (htail : tail.length = 4)
    (hoctets : octets = List.replicate 10 0 ++ (groupOctets 0xffff ++ tail)) :
    sixteen? (Text.ofString "::ffff:" ++ dotted tail) = some octets := by
  have hright : groupsAndTail? (colonParts (Text.ofString "ffff:" ++ dotted tail)) =
      some (groupOctets 0xffff ++ tail) := by
    have hgroup : ∀ g ∈ [0xffff], g < 65536 := by decide
    rw [colonParts_mapped_dotted]
    simpa using groupsAndTail?_append hgroup (groupsAndTail?_dotted htail)
  have hsize : (groupOctets 0xffff ++ tail).length = 6 := by simp [groupOctets, htail]
  have hread := sixteen?_marked (List.forall_mem_nil (· < 65536)) hright (by simp [hsize])
  have htext : Text.ofString "::ffff:" ++ dotted tail =
      Text.ofString "::" ++ (Text.ofString "ffff:" ++ dotted tail) := rfl
  rw [htext, hoctets]
  simpa [hsize] using hread

/-- The first octets are those of the first groups. -/
theorem eq_flatMap_append_drop {octets : List UInt8} {front back : List Nat}
    (h : (front ++ back).flatMap groupOctets = octets) :
    octets = front.flatMap groupOctets ++ octets.drop (2 * front.length) := by
  rw [← h, List.flatMap_append, List.drop_left' (length_flatMap_groupOctets front)]

/-- The reader of IPv6 addresses undoes the printer. -/
theorem sixteen?_compressed {octets : List UInt8} (hlength : octets.length = 16) :
    sixteen? (compressed octets) = some octets := by
  have hlt := groups_lt octets
  have hgroups : (groups octets).length = 8 := by rw [length_groups, hlength]
  have hoctets : (groups octets).flatMap groupOctets = octets :=
    flatMap_groupOctets_groups (by rw [hlength])
  have htail : (octets.drop 12).length = 4 := by rw [List.length_drop, hlength]
  obtain ⟨⟨start, length⟩, hrun⟩ : ∃ run, longestZeroRun (groups octets) = run := ⟨_, rfl⟩
  have hsplit := eq_append_longestZeroRun hrun
  -- One case for each form that the printer knows.
  simp only [compressed, hrun]
  split
  · rw [sixteen?_colonHex hlt hgroups, hoctets]
  · split
    · next hembedded =>
      obtain ⟨rfl, rfl⟩ := hembedded
      apply sixteen?_dotted htail
      rw [hsplit, List.take_zero, List.nil_append] at hoctets
      have hfront := eq_flatMap_append_drop hoctets
      rwa [flatMap_groupOctets_zeros, List.length_replicate] at hfront
    · split
      · next hmapped =>
        obtain ⟨rfl, rfl, hffff⟩ := hmapped
        apply sixteen?_mapped_dotted htail
        have hdrop : (groups octets).drop 5 = 0xffff :: (groups octets).drop 6 := by
          obtain ⟨hlt, hffff⟩ := List.getElem?_eq_some_iff.mp hffff
          rw [List.drop_eq_getElem_cons hlt, hffff]
        rw [hsplit, List.take_zero, List.nil_append, Nat.zero_add, hdrop, List.append_cons]
          at hoctets
        have hfront := eq_flatMap_append_drop hoctets
        rwa [List.flatMap_append, flatMap_groupOctets_zeros, List.append_assoc] at hfront
      · -- The mark stands for as many zeros as the known octets leave room for.
        have hleft : ∀ g ∈ (groups octets).take start, g < 65536 :=
          fun g hg => hlt g (List.mem_of_mem_take hg)
        have hright : ∀ g ∈ (groups octets).drop (start + length), g < 65536 :=
          fun g hg => hlt g (List.mem_of_mem_drop hg)
        have hparts := groupsAndTail?_map_ofNat hright
        rw [← colonParts_colonHex] at hparts
        have hcount := congrArg List.length hsplit
        simp only [List.length_append, List.length_replicate, hgroups] at hcount
        rw [List.append_assoc, sixteen?_marked hleft hparts
          (by rw [length_flatMap_groupOctets]; omega), length_flatMap_groupOctets]
        have hzeros : 16 - (2 * ((groups octets).take start).length +
            2 * ((groups octets).drop (start + length)).length) = 2 * length := by
          omega
        rw [hzeros, ← flatMap_groupOctets_zeros, List.append_assoc, ← List.flatMap_append,
          ← List.flatMap_append, ← hsplit, hoctets]

/-! ## All addresses -/

theorem colon_mem_compressed {octets : List UInt8} (hlength : octets.length = 16) :
    ':'.toUInt8 ∈ compressed octets := by
  have hmark : ':'.toUInt8 ∈ Text.ofString "::" := by decide
  have hmapped : ':'.toUInt8 ∈ Text.ofString "::ffff:" := by decide
  have hgroups : (groups octets).length = 8 := by rw [length_groups, hlength]
  simp only [compressed]
  split
  · match groups octets, hgroups with
    | g :: h :: gs, _ => simp [colonHex_cons]
  · split
    · exact List.mem_append_left _ hmark
    · split
      · exact List.mem_append_left _ hmapped
      · exact List.mem_append_left _ (List.mem_append_right _ hmark)

theorem length_dotted_le (octets : List UInt8) : (dotted octets).length ≤ 4 * octets.length := by
  have hparts : ∀ part ∈ octets.map fun b => Decimal.ofNat b.toNat, part.length ≤ 3 := by
    intro part hpart
    obtain ⟨b, -, rfl⟩ := List.mem_map.mp hpart
    exact Decimal.length_ofNat_le (Nat.lt_trans b.toNat_lt (by decide))
  rw [dotted]
  refine (Text.length_intercalate_le hparts).trans ?_
  rw [List.length_map]

theorem length_colonHex_le {gs : List Nat} (hgs : ∀ g ∈ gs, g < 65536) :
    (colonHex gs).length ≤ 5 * gs.length := by
  have hparts : ∀ part ∈ gs.map Hex.ofNat, part.length ≤ 4 := by
    intro part hpart
    obtain ⟨g, hg, rfl⟩ := List.mem_map.mp hpart
    exact Hex.length_ofNat_le (hgs g hg)
  rw [colonHex]
  refine (Text.length_intercalate_le hparts).trans ?_
  rw [List.length_map]

theorem length_compressed_le {octets : List UInt8} (hlength : octets.length = 16) :
    (compressed octets).length ≤ maxTextLength := by
  have hlt := groups_lt octets
  have hgroups : (groups octets).length = 8 := by rw [length_groups, hlength]
  have htail : (dotted (octets.drop 12)).length ≤ 16 := by
    simpa [hlength] using length_dotted_le (octets.drop 12)
  have hmark : (Text.ofString "::").length = 2 := rfl
  have hmapped : (Text.ofString "::ffff:").length = 7 := rfl
  obtain ⟨⟨start, length⟩, hrun⟩ : ∃ run, longestZeroRun (groups octets) = run := ⟨_, rfl⟩
  simp only [compressed, maxTextLength, hrun]
  split
  · have hall := length_colonHex_le hlt
    omega
  · split
    · rw [List.length_append]
      omega
    · split
      · rw [List.length_append]
        omega
      · -- The groups before and behind the mark are some of the eight.
        have hcount := congrArg List.length (eq_append_longestZeroRun hrun)
        have hleft : (colonHex ((groups octets).take start)).length ≤
            5 * ((groups octets).take start).length :=
          length_colonHex_le fun g hg => hlt g (List.mem_of_mem_take hg)
        have hright : (colonHex ((groups octets).drop (start + length))).length ≤
            5 * ((groups octets).drop (start + length)).length :=
          length_colonHex_le fun g hg => hlt g (List.mem_of_mem_drop hg)
        simp only [List.length_append, List.length_replicate] at hcount ⊢
        omega

/-- The addresses that four or sixteen octets give. -/
def Built (a : Address) : Prop :=
  ∃ octets : List UInt8, (octets.length = 4 ∨ octets.length = 16) ∧ ofOctets octets = a

/-- The form of an address that four or sixteen octets give. -/
theorem Built.cases {a : Address} (ha : a.Built) :
    a.octets.length = 4 ∨ a.octets.length = 16 ∧ isMapped a.octets = false := by
  obtain ⟨octets, hlength, rfl⟩ := ha
  rcases hlength with h4 | h16
  · left
    simp [ofOctets, h4]
  · -- Sixteen octets that stand for an IPv4 address have become four.
    cases hmapped : isMapped octets
    · right
      simp [ofOctets, h16, hmapped]
    · left
      simp [ofOctets, h16, hmapped]

/-- The octets of an address give the address. -/
theorem Built.ofOctets_octets {a : Address} (ha : a.Built) : ofOctets a.octets = a := by
  apply Address.ext
  rcases ha.cases with h4 | ⟨h16, hmapped⟩
  · simp [ofOctets, h4]
  · simp [ofOctets, h16, hmapped]

theorem Built.length_toText_le {a : Address} (ha : a.Built) : a.toText.length ≤ maxTextLength := by
  rcases ha.cases with h4 | ⟨h16, -⟩
  · have hle := length_dotted_le a.octets
    have htext : a.toText = dotted a.octets := by simp [toText, family, size, h4]
    rw [htext, maxTextLength]
    omega
  · have htext : a.toText = compressed a.octets := by simp [toText, family, size, h16]
    rw [htext]
    exact length_compressed_le h16

/-- The readers of both families undo the printer. -/
theorem read_toText {a : Address} (hset : a ≠ unset) :
    (dotted? a.toText).or (sixteen? a.toText) = some a.octets := by
  rcases a.length_octets with h0 | h4 | h16
  · exact absurd (Address.ext (List.length_eq_zero_iff.mp h0)) hset
  · have htext : a.toText = dotted a.octets := by simp [toText, family, size, h4]
    rw [htext, dotted?_dotted h4]
    rfl
  · -- The reader of IPv4 addresses is asked first and has to refuse.
    have htext : a.toText = compressed a.octets := by simp [toText, family, size, h16]
    rw [htext, dotted?_of_colon (colon_mem_compressed h16), sixteen?_compressed h16]
    rfl

theorem toText_ne_nil {a : Address} (hset : a ≠ unset) : a.toText ≠ [] := by
  -- Neither reader accepts a text of no octets.
  have hnone : (dotted? []).or (sixteen? []) = none := rfl
  intro hnil
  have hread := read_toText hset
  rw [hnil, hnone] at hread
  exact Option.some_ne_none a.octets hread.symm

/-- Different addresses have different texts. -/
theorem toText_inj {a b : Address} (h : a.toText = b.toText) : a = b := by
  by_cases ha : a = unset
  · subst ha
    by_contra hb
    exact toText_ne_nil (Ne.symm hb) h.symm
  · have hb : b ≠ unset := by
      rintro rfl
      exact toText_ne_nil ha h
    have hread := read_toText ha
    rw [h, read_toText hb, Option.some.injEq] at hread
    exact Address.ext hread.symm

theorem Built.ne_unset {a : Address} (ha : a.Built) : a ≠ unset := by
  rintro rfl
  rcases ha.cases with h4 | ⟨h16, -⟩
  · cases h4
  · cases h16

/-- A printed address holds no zero octet, so that all of it is read. -/
theorem untilNul_toText (a : Address) : a.toText.untilNul = a.toText := by
  rw [Text.untilNul, List.takeWhile_eq_self_iff]
  intro c hc
  have hoctet := a.isTextOctet_toText c hc
  have hzero : isTextOctet 0 = false := by decide
  rw [bne_iff_ne]
  rintro rfl
  rw [hzero] at hoctet
  exact Bool.false_ne_true hoctet

theorem Built.parse?_toText {a : Address} (ha : a.Built) : parse? a.toText = some a := by
  have hrefused : ¬ (a.toText.isEmpty = true ∨ maxTextLength < a.toText.length) := by
    rw [List.isEmpty_iff, not_or, Nat.not_lt]
    exact ⟨toText_ne_nil ha.ne_unset, ha.length_toText_le⟩
  rw [parse?, if_neg hrefused]
  simp only [untilNul_toText, read_toText ha.ne_unset, Option.map_some, ha.ofOctets_octets]

/-- The text of an address that octets give is neither empty nor too long, it is read back as the
address, and only this address has it. -/
theorem toText_round_trip {a : Address} (ha : a.Built) :
    a.toText ≠ [] ∧ a.toText.length ≤ 45 ∧ parse? a.toText = some a ∧
      ∀ b : Address, b.Built → (a = b ↔ a.toText = b.toText) := by
  refine ⟨toText_ne_nil ha.ne_unset, ha.length_toText_le, ha.parse?_toText, fun b hb => ?_⟩
  constructor
  · intro h
    rw [h]
  · intro h
    have hread := ha.parse?_toText
    rw [h, hb.parse?_toText, Option.some.injEq] at hread
    exact hread.symm

theorem toText_round_trip_embedded :
    let a := ofOctets (List.replicate 12 0 ++ [192, 0, 2, 1])
    a.toText = Text.ofString "::192.0.2.1" ∧ a.toText.length ≤ 45 ∧ parse? a.toText = some a ∧
      (a = v4 192 0 2 1 ↔ a.toText = (v4 192 0 2 1).toText) := by
  have hbuilt : Built (ofOctets (List.replicate 12 0 ++ [192, 0, 2, 1])) := ⟨_, .inr rfl, rfl⟩
  have hother : Built (v4 192 0 2 1) := ⟨[192, 0, 2, 1], .inl rfl, rfl⟩
  obtain ⟨-, hlength, hread, hunique⟩ := toText_round_trip hbuilt
  exact ⟨rfl, hlength, hread, hunique _ hother⟩

end LocalNet.Address
