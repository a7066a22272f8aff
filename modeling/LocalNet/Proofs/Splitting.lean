import LocalNet.Text
import Mathlib.Data.List.DropRight

/-!
# Cutting texts

How the pieces, fields and lines of a text follow from those of its parts.

- `Text.pieces_eq_splitOnP`: pieces are what the list library knows as a split;
- `Text.pieces_intercalate`, `Text.intercalate_pieces`: joined parts are taken apart again, and what
  was taken apart is joined to the same text;
- `Text.pieces_append_cons`: a text is cut at each separator;
- `Text.mem_intercalate`, `Text.length_intercalate_le`: the octets and the length of joined parts;
- `Text.exists_piece_of_mem`: the octets of a text that is cut;
- `Text.fields_append_cons`, `Text.fields_of_word`: fields are cut at every blank and nowhere else;
- `Text.lines_append_cons`, `Text.lines_terminated`: lines are cut at every line feed;
- `Text.trim_append`, `Text.trim_dropReturn`, `Text.fields_trim`: what trimming leaves;
- `Text.cutFirst?_eq_some_iff`, `Text.cutLast?_eq_some_iff`: the two sides of one separator.
-/

namespace LocalNet.Text

theorem firstAndOtherPieces_eq (isSep : UInt8 → Bool) (t : Text) :
    (firstAndOtherPieces isSep t).1 :: (firstAndOtherPieces isSep t).2 = t.splitOnP isSep := by
  induction t with
  | nil => rfl
  | cons c t ih =>
    rw [List.splitOnP_cons_eq_if_modifyHead, ← ih, firstAndOtherPieces]
    by_cases hc : isSep c = true <;> simp [hc]

/-- The pieces of a text are its parts between separators. -/
theorem pieces_eq_splitOnP (isSep : UInt8 → Bool) (t : Text) : pieces isSep t = t.splitOnP isSep :=
  firstAndOtherPieces_eq isSep t

/-- Joined parts are taken apart again at their separators. -/
theorem pieces_intercalate {sep : UInt8} {parts : List Text} (hparts : ∀ part ∈ parts, sep ∉ part)
    (hne : parts ≠ []) : pieces (· == sep) ([sep].intercalate parts) = parts := by
  rw [pieces_eq_splitOnP, ← List.splitOn_eq_splitOnP]
  exact List.splitOn_intercalate sep hparts hne

/-- The pieces of a text are joined to the text again. -/
theorem intercalate_pieces (sep : UInt8) (t : Text) :
    [sep].intercalate (pieces (· == sep) t) = t := by
  rw [pieces_eq_splitOnP, ← List.splitOn_eq_splitOnP]
  exact List.intercalate_splitOn sep

theorem pieces_ne_nil (isSep : UInt8 → Bool) (t : Text) : pieces isSep t ≠ [] :=
  List.cons_ne_nil _ _

/-- A text without separators is one piece. -/
theorem pieces_of_notMem {sep : UInt8} {t : Text} (ht : sep ∉ t) : pieces (· == sep) t = [t] := by
  rw [pieces_eq_splitOnP]
  exact List.splitOnP_eq_singleton fun c hc => beq_eq_false_iff_ne.mpr fun heq => ht (heq ▸ hc)

/-- A separator ends the pieces before it and starts others. -/
theorem pieces_append_cons (sep : UInt8) (s t : Text) :
    pieces (· == sep) (s ++ sep :: t) = pieces (· == sep) s ++ pieces (· == sep) t := by
  simp only [pieces_eq_splitOnP]
  exact List.splitOnP_append_cons s t (beq_self_eq_true sep)

/-- An octet of joined parts is the separator or belongs to a part. -/
theorem mem_intercalate {sep c : UInt8} {parts : List Text}
    (hc : c ∈ [sep].intercalate parts) : c = sep ∨ ∃ part ∈ parts, c ∈ part := by
  induction parts with
  | nil => simp at hc
  | cons part parts ih =>
    by_cases hparts : parts = []
    · subst hparts
      rw [List.intercalate_singleton] at hc
      exact .inr ⟨part, List.mem_cons_self, hc⟩
    · rw [List.intercalate_cons_of_ne_nil hparts, List.append_assoc, List.mem_append,
        List.mem_append, List.mem_singleton] at hc
      rcases hc with hc | hc | hc
      · exact .inr ⟨part, List.mem_cons_self, hc⟩
      · exact .inl hc
      · rcases ih hc with hsep | ⟨other, hother, hmem⟩
        · exact .inl hsep
        · exact .inr ⟨other, List.mem_cons_of_mem part hother, hmem⟩

/-- An octet of a text is the separator or belongs to a piece. -/
theorem exists_piece_of_mem {c : UInt8} (sep : UInt8) {t : Text} (hc : c ∈ t) :
    c = sep ∨ ∃ part ∈ pieces (· == sep) t, c ∈ part := by
  apply mem_intercalate
  rw [intercalate_pieces]
  exact hc

/-- The length of joined parts, if no part is longer than `k`. -/
theorem length_intercalate_le {sep : UInt8} {parts : List Text} {k : Nat}
    (hparts : ∀ part ∈ parts, part.length ≤ k) :
    ([sep].intercalate parts).length ≤ (k + 1) * parts.length := by
  induction parts with
  | nil => simp
  | cons part parts ih =>
    have hpart := hparts part List.mem_cons_self
    have hothers := ih fun other hother => hparts other (List.mem_cons_of_mem part hother)
    rw [List.length_cons, Nat.mul_succ]
    by_cases hnil : parts = []
    · subst hnil
      rw [List.intercalate_singleton]
      omega
    · rw [List.intercalate_cons_of_ne_nil hnil]
      simp only [List.length_append, List.length_singleton]
      omega

/-! ## Fields -/

theorem fields_eq (t : Text) : t.fields = (t.splitOnP isBlank).filter (!·.isEmpty) := by
  rw [fields, pieces_eq_splitOnP]

@[simp]
theorem fields_nil : fields [] = [] := rfl

/-- A blank ends the fields before it and starts others. -/
theorem fields_append_cons {c : UInt8} (hc : isBlank c = true) (s t : Text) :
    fields (s ++ c :: t) = fields s ++ fields t := by
  simp only [fields_eq, List.splitOnP_append_cons s t hc, List.filter_append]

/-- A blank at the start belongs to no field. -/
theorem fields_cons {c : UInt8} (hc : isBlank c = true) (t : Text) :
    fields (c :: t) = fields t := by
  simpa using fields_append_cons hc [] t

/-- A blank at the end belongs to no field. -/
theorem fields_concat {c : UInt8} (hc : isBlank c = true) (t : Text) :
    fields (t ++ [c]) = fields t := by
  simpa using fields_append_cons hc t []

/-- A text without blanks is one field. -/
theorem fields_of_word {w : Text} (hne : w ≠ []) (hw : ∀ c ∈ w, isBlank c = false) :
    fields w = [w] := by
  rw [fields_eq, List.splitOnP_eq_singleton hw]
  simp [hne]

/-- A word that a blank ends is the first field. -/
theorem fields_word_append {w : Text} (hne : w ≠ []) (hw : ∀ c ∈ w, isBlank c = false) {c : UInt8}
    (hc : isBlank c = true) (t : Text) : fields (w ++ c :: t) = w :: fields t := by
  rw [fields_append_cons hc, fields_of_word hne hw, List.singleton_append]

/-- An octet that is no blank starts a field. -/
theorem exists_fields_cons {c : UInt8} (hc : isBlank c = false) (t : Text) :
    ∃ word others, fields (c :: t) = (c :: word) :: others := by
  obtain ⟨word, others, hsplit⟩ :=
    List.exists_cons_of_ne_nil (List.splitOnP_ne_nil isBlank t)
  refine ⟨word, others.filter (!·.isEmpty), ?_⟩
  rw [fields_eq, List.splitOnP_cons_eq_if_modifyHead, hsplit, hc]
  rfl

/-! ## Trimming -/

theorem dropEndWhile_eq_rdropWhile (p : UInt8 → Bool) (t : Text) :
    dropEndWhile p t = t.rdropWhile p := rfl

theorem fields_dropWhile (t : Text) : fields (t.dropWhile isBlank) = fields t := by
  induction t with
  | nil => rfl
  | cons c t ih =>
    by_cases hc : isBlank c = true
    · rw [List.dropWhile_cons_of_pos hc, ih, fields_cons hc]
    · rw [List.dropWhile_cons_of_neg hc]

theorem fields_dropEndWhile (t : Text) : fields (dropEndWhile isBlank t) = fields t := by
  rw [dropEndWhile_eq_rdropWhile]
  -- What is dropped stands at the end, so the induction adds octets there.
  induction t using List.reverseRecOn with
  | nil => rfl
  | append_singleton t c ih =>
    by_cases hc : isBlank c = true
    · rw [List.rdropWhile_concat_pos _ _ _ hc, ih, fields_concat hc]
    · rw [List.rdropWhile_concat_neg _ _ _ hc]

/-- Trimming takes nothing from the fields. -/
theorem fields_trim (t : Text) : fields (trim t) = fields t := by
  rw [trim, fields_dropEndWhile, fields_dropWhile]

/-- A blank at the end makes no difference to trimming. -/
theorem trim_concat {c : UInt8} (hc : isBlank c = true) (t : Text) : trim (t ++ [c]) = trim t := by
  unfold trim
  rw [List.dropWhile_append]
  -- If `t` consists of blanks, the blank at the end is dropped from the front with them.
  split
  · next hempty =>
    simp [List.isEmpty_iff.mp hempty, hc]
  · rw [dropEndWhile_eq_rdropWhile, List.rdropWhile_concat_pos _ _ _ hc]
    rfl

/-- Blanks are removed at the end of a text only as far as its start has none there. -/
theorem dropEndWhile_append {p : UInt8 → Bool} {s : Text} (hne : s ≠ [])
    (hlast : p (s.getLast hne) = false) (t : Text) :
    dropEndWhile p (s ++ t) = s ++ dropEndWhile p t := by
  simp only [dropEndWhile_eq_rdropWhile]
  induction t using List.reverseRecOn with
  | nil =>
    rw [List.append_nil, List.rdropWhile_nil, List.append_nil]
    exact List.rdropWhile_eq_self_iff.mpr fun _ => by simp [hlast]
  | append_singleton t c ih =>
    rw [← List.append_assoc]
    by_cases hc : p c = true
    · rw [List.rdropWhile_concat_pos _ _ _ hc, List.rdropWhile_concat_pos _ _ _ hc, ih]
    · rw [List.rdropWhile_concat_neg _ _ _ hc, List.rdropWhile_concat_neg _ _ _ hc,
        List.append_assoc]

/-- Trimming leaves the start of a text that has no blank at either end. -/
theorem trim_append {s : Text} (hne : s ≠ []) (hfirst : isBlank (s.head hne) = false)
    (hlast : isBlank (s.getLast hne) = false) (t : Text) :
    trim (s ++ t) = s ++ dropEndWhile isBlank t := by
  have hstart : (s ++ t).dropWhile isBlank = s ++ t := by
    cases s with
    | nil => exact absurd rfl hne
    | cons c s =>
      rw [List.head_cons] at hfirst
      simp [hfirst]
  rw [trim, hstart, dropEndWhile_append hne hlast]

theorem head?_trim_append {s : Text} (hne : s ≠ []) (hfirst : isBlank (s.head hne) = false)
    (hlast : isBlank (s.getLast hne) = false) (t : Text) :
    (trim (s ++ t)).head? = some (s.head hne) := by
  rw [trim_append hne hfirst hlast, List.head?_append, List.head?_eq_some_head hne, Option.some_or]

/-- Blanks at the start make no difference to trimming. -/
theorem trim_blanks_append {blanks : Text} (hblanks : ∀ c ∈ blanks, isBlank c = true) (t : Text) :
    trim (blanks ++ t) = trim t := by
  rw [trim, List.dropWhile_append_of_pos hblanks, trim]

/-- What is left of a text starts with its first octet that is no blank. -/
theorem head?_trim (t : Text) : (trim t).head? = (t.dropWhile isBlank).head? := by
  cases hrest : t.dropWhile isBlank with
  | nil =>
    rw [trim, hrest]
    rfl
  | cons c rest =>
    have hc : isBlank c = false := by
      simpa [hrest] using List.head?_dropWhile_not isBlank t
    have htrim : trim t = c :: dropEndWhile isBlank rest := by
      rw [trim, hrest]
      exact dropEndWhile_append (List.cons_ne_nil c []) hc rest
    rw [htrim, List.head?_cons, List.head?_cons]

/-! ## Lines -/

@[simp]
theorem dropReturn_nil : dropReturn [] = [] := rfl

theorem dropReturn_concat_return (t : Text) : dropReturn (t ++ [0x0d]) = t := by
  simp [dropReturn]

theorem dropReturn_concat {c : UInt8} (hc : c ≠ 0x0d) (t : Text) :
    dropReturn (t ++ [c]) = t ++ [c] := by
  simp [dropReturn, hc]

/-- Trimming drops the carriage return that ends a line anyway. -/
theorem trim_dropReturn (line : Text) : trim (dropReturn line) = trim line := by
  induction line using List.reverseRecOn with
  | nil => rfl
  | append_singleton t c =>
    by_cases hc : c = 0x0d
    · rw [hc, dropReturn_concat_return, trim_concat (by decide)]
    · rw [dropReturn_concat hc]

theorem fields_dropReturn (line : Text) : fields (dropReturn line) = fields line := by
  rw [← fields_trim, trim_dropReturn, fields_trim]

theorem lines_eq (t : Text) :
    t.lines = (if (t.splitOnP (· == 0x0a)).getLast? = some [] then
        (t.splitOnP (· == 0x0a)).dropLast
      else t.splitOnP (· == 0x0a)).map dropReturn := by
  rw [lines, pieces_eq_splitOnP]

@[simp]
theorem lines_nil : lines [] = [] := rfl

/-- A line feed ends the lines before it and starts others. -/
theorem lines_append_cons (s t : Text) :
    lines (s ++ 0x0a :: t) = (s.splitOnP (· == 0x0a)).map dropReturn ++ lines t := by
  have hne := List.splitOnP_ne_nil (· == (0x0a : UInt8)) t
  rw [lines_eq, lines_eq, List.splitOnP_append_cons s t (by decide)]
  rw [List.getLast?_append_of_ne_nil _ hne, List.dropLast_append_of_ne_nil hne]
  split <;> simp

/-- The first line ends at the first line feed. -/
theorem lines_line_append {line : Text} (hline : (0x0a : UInt8) ∉ line) (t : Text) :
    lines (line ++ 0x0a :: t) = dropReturn line :: lines t := by
  have hsplit : line.splitOnP (· == (0x0a : UInt8)) = [line] := by
    rw [← pieces_eq_splitOnP, pieces_of_notMem hline]
  rw [lines_append_cons, hsplit, List.map_singleton, List.singleton_append]

/-- The lines of a row of terminated lines. -/
theorem lines_terminated {ls : List Text} (hls : ∀ line ∈ ls, (0x0a : UInt8) ∉ line) :
    lines (ls.flatMap (· ++ [0x0a])) = ls.map dropReturn := by
  induction ls with
  | nil => rfl
  | cons line ls ih =>
    rw [List.flatMap_cons, List.append_assoc, List.singleton_append,
      lines_line_append (hls line List.mem_cons_self), List.map_cons,
      ih fun other hother => hls other (List.mem_cons_of_mem line hother)]

/-- Ending a text with a line feed changes its lines by one empty line at most. -/
theorem map_dropReturn_split (t : Text) :
    (t.splitOnP (· == 0x0a)).map dropReturn = lines t ∨
      (t.splitOnP (· == 0x0a)).map dropReturn = lines t ++ [[]] := by
  rw [lines_eq]
  -- An empty last piece is no line; it is there if the text ends with a line feed.
  split
  · next hlast =>
    right
    have hsplit := List.dropLast_append_getLast? [] hlast
    conv_lhs => rw [← hsplit]
    simp
  · exact .inl rfl

/-! ## One separator -/

variable {sep : UInt8} {t before after : Text}

/-- The first separator is the one that no other precedes. -/
theorem cutFirst?_eq_some_iff :
    cutFirst? sep t = some (before, after) ↔ t = before ++ sep :: after ∧ sep ∉ before := by
  induction t generalizing before with
  | nil => simp [cutFirst?]
  | cons c t ih =>
    rw [cutFirst?]
    split
    · next hc =>
      subst hc
      cases before with
      | nil => simp [eq_comm]
      | cons d before =>
        constructor
        · intro h
          simp at h
        · -- A separator in front is the first one.
          rintro ⟨heq, hmem⟩
          obtain ⟨rfl, -⟩ := List.cons.inj heq
          exact absurd List.mem_cons_self hmem
    · next hc =>
      cases before with
      | nil => simp [hc]
      | cons d before =>
        simp only [Option.map_eq_some_iff, Prod.exists, Prod.mk.injEq, List.cons.injEq,
          List.cons_append, List.mem_cons, not_or]
        constructor
        · rintro ⟨before', after', hcut, ⟨rfl, rfl⟩, rfl⟩
          obtain ⟨ht, hmem⟩ := ih.mp hcut
          exact ⟨⟨rfl, ht⟩, Ne.symm hc, hmem⟩
        · rintro ⟨⟨rfl, ht⟩, -, hmem⟩
          exact ⟨before, after, ih.mpr ⟨ht, hmem⟩, ⟨rfl, rfl⟩, rfl⟩

theorem cutFirst?_append_cons (h : sep ∉ before) (after : Text) :
    cutFirst? sep (before ++ sep :: after) = some (before, after) :=
  cutFirst?_eq_some_iff.mpr ⟨rfl, h⟩

theorem cutLast?_eq_none_iff : cutLast? sep t = none ↔ sep ∉ t := by
  induction t with
  | nil => simp [cutLast?]
  | cons c t ih =>
    rw [cutLast?]
    cases hcut : cutLast? sep t with
    | some cut =>
      have hmem : sep ∈ t := by
        by_contra hnot
        simp [ih.mpr hnot] at hcut
      simp [hmem]
    | none =>
      have hmem : sep ∉ t := ih.mp hcut
      simp [hmem, eq_comm]

/-- The last separator is the one that no other follows. -/
theorem cutLast?_eq_some_iff :
    cutLast? sep t = some (before, after) ↔ t = before ++ sep :: after ∧ sep ∉ after := by
  induction t generalizing before after with
  | nil => simp [cutLast?]
  | cons c t ih =>
    rw [cutLast?]
    -- A separator further behind is preferred to one in front.
    cases hcut : cutLast? sep t with
    | none =>
      have hmem : sep ∉ t := cutLast?_eq_none_iff.mp hcut
      cases before with
      | nil =>
        simp only [Option.ite_none_right_eq_some, Option.some.injEq, Prod.mk.injEq, true_and,
          List.nil_append, List.cons.injEq]
        constructor
        · rintro ⟨hc, rfl⟩
          exact ⟨⟨hc, rfl⟩, hmem⟩
        · rintro ⟨⟨hc, rfl⟩, -⟩
          exact ⟨hc, rfl⟩
      | cons d before =>
        constructor
        · intro h
          simp at h
        · rintro ⟨heq, -⟩
          obtain ⟨-, rfl⟩ := List.cons.inj heq
          simp at hmem
    | some cut =>
      obtain ⟨front, back⟩ := cut
      obtain ⟨ht, hback⟩ := ih.mp hcut
      cases before with
      | nil =>
        constructor
        · intro h
          simp at h
        · rintro ⟨heq, hmem⟩
          obtain ⟨-, rfl⟩ := List.cons.inj heq
          simp [ht] at hmem
      | cons d before =>
        simp only [Option.some.injEq, Prod.mk.injEq, List.cons.injEq, List.cons_append]
        constructor
        · rintro ⟨⟨rfl, rfl⟩, rfl⟩
          exact ⟨⟨rfl, ht⟩, hback⟩
        · rintro ⟨⟨rfl, ht'⟩, hafter⟩
          have heq := hcut.symm.trans (ih.mpr ⟨ht', hafter⟩)
          rw [Option.some.injEq, Prod.mk.injEq] at heq
          exact ⟨⟨rfl, heq.1⟩, heq.2⟩

theorem cutLast?_append_cons (before : Text) (h : sep ∉ after) :
    cutLast? sep (before ++ sep :: after) = some (before, after) :=
  cutLast?_eq_some_iff.mpr ⟨rfl, h⟩

end LocalNet.Text
