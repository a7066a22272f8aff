import LocalNet.Proofs.Splitting
import Mathlib.Tactic.IntervalCases

/-!
# Layouts of texts

Fields are written with blanks between them, and lines with a line feed behind each, perhaps after a
carriage return. Taking the text apart undoes this: every text is laid out in one way at most, and
what is taken from it are the fields or the lines of that layout.

- `Text.Spaced`: the text sets out these fields;
- `Text.fields_spaced`: the fields of a text are those that it sets out, and only blanks are lost;
- `Text.Lined`: the text consists of these lines;
- `Text.lines_lined`: the lines of a text are those that it consists of, and a line feed separates
  those before it from those behind it.
-/

namespace LocalNet.Text

/-! ## Fields -/

/-- What separates fields: space, tab, line feed, vertical tab, form feed and carriage return. -/
def separators : Text :=
  [0x20, 0x09, 0x0a, 0x0b, 0x0c, 0x0d]

theorem isBlank_iff {c : UInt8} : isBlank c = true ↔ c ∈ separators := by
  constructor
  · intro hc
    simp only [isBlank, Bool.or_eq_true, beq_iff_eq, Bool.and_eq_true, decide_eq_true_iff] at hc
    rcases hc with rfl | ⟨hlow, hhigh⟩
    · decide
    · -- The other five are neighbours in the order of octets.
      obtain ⟨n, hn, rfl⟩ : ∃ n : Nat, n < 5 ∧ c = (9 + n).toUInt8 := by
        have hlow' : 9 ≤ c.toNat := UInt8.le_iff_toNat_le.mp hlow
        have hhigh' : c.toNat ≤ 13 := UInt8.le_iff_toNat_le.mp hhigh
        refine ⟨c.toNat - 9, by omega, ?_⟩
        rw [Nat.add_sub_cancel' hlow']
        exact UInt8.ofNat_toNat.symm
      interval_cases n <;> decide
  · intro hc
    simp only [separators, List.mem_cons, List.not_mem_nil, or_false] at hc
    rcases hc with rfl | rfl | rfl | rfl | rfl | rfl <;> rfl

theorem isBlank_eq_false_iff {c : UInt8} : isBlank c = false ↔ c ∉ separators := by
  rw [← isBlank_iff, Bool.not_eq_true]

/-- A field has at least one octet, and none of them separates fields. -/
structure IsField (word : Text) : Prop where
  /-- The field is not empty. -/
  ne_nil : word ≠ []
  /-- There is no separator in it. -/
  notMem : ∀ c ∈ word, c ∉ separators

/-- There is nothing but separators. -/
def IsGap (gap : Text) : Prop :=
  ∀ c ∈ gap, c ∈ separators

/-- These fields stand in the text, one after the other, with a gap between neighbours. -/
inductive Joined : List Text → Text → Prop
  /-- A field by itself. -/
  | single {word : Text} (hword : IsField word) : Joined [word] word
  /-- A field, a gap that is not empty, and other fields. -/
  | more {word gap t : Text} {words : List Text} (hword : IsField word) (hne : gap ≠ [])
    (hgap : IsGap gap) (hlater : Joined words t) : Joined (word :: words) (word ++ gap ++ t)

/-- The text sets out these fields, with gaps between neighbours and perhaps around all of them. -/
inductive Spaced : List Text → Text → Prop
  /-- There are no fields. -/
  | blank {gap : Text} (hgap : IsGap gap) : Spaced [] gap
  /-- There are some. -/
  | joined {before t after : Text} {words : List Text} (hbefore : IsGap before)
    (hafter : IsGap after) (hwords : Joined words t) : Spaced words (before ++ t ++ after)

section

variable {c : UInt8} {word gap t : Text} {words : List Text}

theorem IsField.cons (hc : c ∉ separators) (hword : IsField word) : IsField (c :: word) where
  ne_nil := List.cons_ne_nil c word
  notMem := List.forall_mem_cons.mpr ⟨hc, hword.notMem⟩

theorem isField_singleton (hc : c ∉ separators) : IsField [c] where
  ne_nil := List.cons_ne_nil c []
  notMem := List.forall_mem_singleton.mpr hc

theorem isGap_nil : IsGap [] :=
  List.forall_mem_nil _

theorem IsGap.cons (hc : c ∈ separators) (hgap : IsGap gap) : IsGap (c :: gap) :=
  List.forall_mem_cons.mpr ⟨hc, hgap⟩

/-- A gap in front makes no difference to the fields. -/
theorem IsGap.fields_append (hgap : IsGap gap) (t : Text) : fields (gap ++ t) = fields t := by
  induction gap with
  | nil => rfl
  | cons c gap ih =>
    obtain ⟨hc, hothers⟩ := List.forall_mem_cons.mp hgap
    rw [List.cons_append, fields_cons (isBlank_iff.mpr hc), ih hothers]

/-- Nor does one at the end. -/
theorem IsGap.fields_append_left (hgap : IsGap gap) (t : Text) : fields (t ++ gap) = fields t := by
  induction gap generalizing t with
  | nil => rw [List.append_nil]
  | cons c gap ih =>
    -- The first blank ends the fields, and those behind it are the fields of a gap.
    obtain ⟨hc, hothers⟩ := List.forall_mem_cons.mp hgap
    have hnone := IsGap.fields_append hothers []
    rw [List.append_nil, fields_nil] at hnone
    rw [fields_append_cons (isBlank_iff.mpr hc), hnone, List.append_nil]

theorem IsField.fields_eq (hword : IsField word) : fields word = [word] :=
  fields_of_word hword.ne_nil fun c hc => isBlank_eq_false_iff.mpr (hword.notMem c hc)

theorem Joined.fields_eq (h : Joined words t) : fields t = words := by
  induction h with
  | single hword => exact hword.fields_eq
  | @more word gap t words hword hne hgap _ ih =>
    -- The first blank behind the field ends it, and the rest of the gap is one in front.
    obtain ⟨c, gap, rfl⟩ := List.exists_cons_of_ne_nil hne
    obtain ⟨hc, hothers⟩ := List.forall_mem_cons.mp hgap
    rw [List.append_assoc, List.cons_append, fields_append_cons (isBlank_iff.mpr hc),
      hword.fields_eq, IsGap.fields_append hothers, ih, List.singleton_append]

/-- The fields that are set out are found again. -/
theorem Spaced.fields_eq (h : Spaced words t) : fields t = words := by
  cases h with
  | blank hgap =>
    have hnone := hgap.fields_append []
    rwa [List.append_nil, fields_nil] at hnone
  | joined hbefore hafter hwords =>
    rw [hafter.fields_append_left, hbefore.fields_append, hwords.fields_eq]

/-- An octet in front of a field belongs to it unless it is a separator. -/
theorem Joined.exists_cons (hc : c ∉ separators) (h : Joined words t) :
    ∃ words', Joined words' (c :: t) := by
  cases h with
  | single hword => exact ⟨_, .single (hword.cons hc)⟩
  | more hword hne hgap hlater => exact ⟨_, .more (hword.cons hc) hne hgap hlater⟩

/-- Every text sets out some fields. -/
theorem exists_spaced (t : Text) : ∃ words, Spaced words t := by
  -- Octet by octet from the end: a separator widens the gap in front, any other octet starts a field
  -- or belongs to the one that it stands before.
  induction t with
  | nil => exact ⟨[], .blank isGap_nil⟩
  | cons c t ih =>
    obtain ⟨words, hwords⟩ := ih
    by_cases hc : c ∈ separators
    · cases hwords with
      | blank hgap => exact ⟨[], .blank (hgap.cons hc)⟩
      | joined hbefore hafter hjoined => exact ⟨words, .joined (hbefore.cons hc) hafter hjoined⟩
    · cases hwords with
      | blank hgap => exact ⟨[[c]], .joined isGap_nil hgap (.single (isField_singleton hc))⟩
      | @joined before t after _ hbefore hafter hjoined =>
        by_cases hnext : before = []
        · subst hnext
          obtain ⟨words', hwords'⟩ := hjoined.exists_cons hc
          exact ⟨words', .joined isGap_nil hafter hwords'⟩
        · have hmore := Joined.more (isField_singleton hc) hnext hbefore hjoined
          exact ⟨[c] :: words, .joined isGap_nil hafter hmore⟩

theorem spaced_iff : Spaced words t ↔ fields t = words := by
  constructor
  · exact Spaced.fields_eq
  · rintro rfl
    obtain ⟨words, hwords⟩ := exists_spaced t
    rwa [hwords.fields_eq]

/-- What a text has beside its separators. -/
def withoutSeparators (t : Text) : Text :=
  t.filter fun c => !separators.contains c

theorem IsField.withoutSeparators_eq (hword : IsField word) : withoutSeparators word = word := by
  refine List.filter_eq_self.mpr fun c hc => ?_
  simpa using hword.notMem c hc

theorem IsGap.withoutSeparators_eq (hgap : IsGap gap) : withoutSeparators gap = [] := by
  refine List.filter_eq_nil_iff.mpr fun c hc => ?_
  simpa using hgap c hc

theorem withoutSeparators_append (s t : Text) :
    withoutSeparators (s ++ t) = withoutSeparators s ++ withoutSeparators t :=
  List.filter_append s t

theorem Joined.flatten_eq (h : Joined words t) : words.flatten = withoutSeparators t := by
  induction h with
  | single hword => rw [List.flatten_singleton, hword.withoutSeparators_eq]
  | more hword _ hgap _ ih =>
    rw [List.flatten_cons, ih, withoutSeparators_append, withoutSeparators_append,
      hword.withoutSeparators_eq, hgap.withoutSeparators_eq, List.append_nil]

/-- Nothing but separators is lost. -/
theorem Spaced.flatten_eq (h : Spaced words t) : words.flatten = withoutSeparators t := by
  cases h with
  | blank hgap => exact hgap.withoutSeparators_eq.symm
  | joined hbefore hafter hwords =>
    rw [withoutSeparators_append, withoutSeparators_append, hbefore.withoutSeparators_eq,
      hafter.withoutSeparators_eq, List.nil_append, List.append_nil, hwords.flatten_eq]

theorem Joined.forall_isField (h : Joined words t) : ∀ word ∈ words, IsField word := by
  induction h with
  | single hword => exact List.forall_mem_singleton.mpr hword
  | more hword _ _ _ ih => exact List.forall_mem_cons.mpr ⟨hword, ih⟩

theorem Spaced.forall_isField (h : Spaced words t) : ∀ word ∈ words, IsField word := by
  cases h with
  | blank => exact List.forall_mem_nil _
  | joined _ _ hwords => exact hwords.forall_isField

end

/-- The fields of a text are those that it sets out. Every text sets out one list of fields, each of
them with at least one octet and without separators, and all that is lost are separators. -/
theorem fields_spaced (t : Text) :
    (∀ words, Spaced words t ↔ fields t = words) ∧ (∃! words, Spaced words t) ∧
      (∀ word ∈ fields t, IsField word) ∧ (fields t).flatten = withoutSeparators t := by
  have hspaced : Spaced (fields t) t := spaced_iff.mpr rfl
  refine ⟨fun words => spaced_iff, ⟨fields t, hspaced, fun words hwords => ?_⟩,
    hspaced.forall_isField, hspaced.flatten_eq⟩
  exact hwords.fields_eq.symm

/-- All separators occur, in front, between the fields and behind them. -/
theorem fields_spaced_mixedGaps :
    let t := ofString " \tvia\r\n 192.0.2.1" ++ [0x0b, 0x0c]
    Spaced [ofString "via", ofString "192.0.2.1"] t ∧ ofString "via" ∈ fields t ∧
      IsField (ofString "via") := by
  have hfields : fields (ofString " \tvia\r\n 192.0.2.1" ++ [0x0b, 0x0c]) =
      [ofString "via", ofString "192.0.2.1"] := by rfl
  intro t
  have hmem : ofString "via" ∈ fields t := by
    rw [hfields]
    exact List.mem_cons_self
  obtain ⟨hspaced, -, hfield, -⟩ := fields_spaced t
  exact ⟨(hspaced _).mpr hfields, hmem, hfield _ hmem⟩

/-! ## Lines -/

/-- A line has no line feed in it, and no carriage return at its end. -/
structure IsLine (line : Text) : Prop where
  /-- There is no line feed. -/
  lineFeed_notMem : 0x0a ∉ line
  /-- A carriage return at the end would belong to the line feed behind it. -/
  getLast?_ne : line.getLast? ≠ some 0x0d

/-- The text consists of these lines. A line may end with a carriage return if another one follows,
which is then the one that does not belong to it. -/
inductive Lined : List Text → Text → Prop
  /-- There is no line. -/
  | nothing : Lined [] []
  /-- Nothing ends the last line, which is not empty. -/
  | unended {line : Text} (hline : IsLine line) (hne : line ≠ []) : Lined [line] line
  /-- Only a carriage return is behind the last line. -/
  | halfEnded {line : Text} (hline : 0x0a ∉ line) : Lined [line] (line ++ ofString "\r")
  /-- A line feed ends the line. -/
  | fed {line t : Text} {others : List Text} (hline : IsLine line) (hlater : Lined others t) :
    Lined (line :: others) (line ++ ofString "\n" ++ t)
  /-- A carriage return and a line feed end the line. -/
  | returned {line t : Text} {others : List Text} (hline : 0x0a ∉ line)
    (hlater : Lined others t) : Lined (line :: others) (line ++ ofString "\r\n" ++ t)

section

variable {line t : Text} {ls : List Text}

theorem IsLine.dropReturn_eq (hline : IsLine line) : dropReturn line = line :=
  if_neg hline.getLast?_ne

/-- A carriage return is no line feed. -/
theorem notMem_concat_return (hline : (0x0a : UInt8) ∉ line) :
    (0x0a : UInt8) ∉ line ++ [0x0d] := by
  simp [hline]

/-- What is behind the last line feed is a line if it is not empty. -/
theorem lines_of_notMem (hline : (0x0a : UInt8) ∉ line) (hne : line ≠ []) :
    lines line = [dropReturn line] := by
  have hlast : ([line] : List Text).getLast? ≠ some [] := by
    rw [List.getLast?_singleton]
    exact fun h => hne (Option.some.inj h)
  rw [lines, pieces_of_notMem hline]
  simp only [if_neg hlast, List.map_singleton]

/-- The lines that a text consists of are found again. -/
theorem Lined.lines_eq (h : Lined ls t) : lines t = ls := by
  induction h with
  | nothing => rfl
  | unended hline hne => rw [lines_of_notMem hline.lineFeed_notMem hne, hline.dropReturn_eq]
  | @halfEnded line hline =>
    have hlines := lines_of_notMem (notMem_concat_return hline) (List.concat_ne_nil 0x0d line)
    rwa [dropReturn_concat_return] at hlines
  | @fed line t others hline _ ih =>
    -- Without a carriage return at its end the line is taken as it is.
    have hfeed : line ++ ofString "\n" ++ t = line ++ 0x0a :: t := List.append_assoc _ _ _
    rw [hfeed, lines_line_append hline.lineFeed_notMem, hline.dropReturn_eq, ih]
  | @returned line t others hline _ ih =>
    -- The carriage return before the line feed is the one that is dropped.
    have hfeed : line ++ ofString "\r\n" ++ t = line ++ [0x0d] ++ 0x0a :: t := by
      rw [List.append_assoc, List.append_assoc]
      rfl
    rw [hfeed, lines_line_append (notMem_concat_return hline), dropReturn_concat_return, ih]

/-- An octet in front of the first line belongs to it, unless it is a line feed or the carriage return
of an empty line. -/
theorem Lined.exists_cons {c : UInt8} (hc : c ≠ 0x0a) (h : Lined ls t) :
    ∃ ls', Lined ls' (c :: t) := by
  have hcons : ∀ {line : Text}, (0x0a : UInt8) ∉ line → (0x0a : UInt8) ∉ c :: line :=
    fun hline => List.not_mem_cons_of_ne_of_not_mem hc.symm hline
  -- An octet in front of a line that is not empty leaves the end of the line as it is.
  have hfront : ∀ {line : Text}, IsLine line → line ≠ [] → IsLine (c :: line) := by
    intro line hline hne
    refine ⟨hcons hline.lineFeed_notMem, ?_⟩
    rw [List.getLast?_cons_of_ne_nil hne]
    exact hline.getLast?_ne
  have halone : c ≠ 0x0d → IsLine [c] := fun hreturn =>
    ⟨hcons List.not_mem_nil, fun h => hreturn (Option.some.inj h)⟩
  cases h with
  | nothing =>
    by_cases hreturn : c = 0x0d
    · subst hreturn
      exact ⟨[[]], .halfEnded List.not_mem_nil⟩
    · exact ⟨[[c]], .unended (halone hreturn) (List.cons_ne_nil c [])⟩
  | unended hline hne => exact ⟨_, .unended (hfront hline hne) (List.cons_ne_nil c _)⟩
  | halfEnded hline => exact ⟨_, .halfEnded (hcons hline)⟩
  | @fed line t others hline hlater =>
    -- In front of an empty line a carriage return is not part of a line, but of its end.
    by_cases hne : line = []
    · subst hne
      by_cases hreturn : c = 0x0d
      · subst hreturn
        exact ⟨[] :: others, .returned List.not_mem_nil hlater⟩
      · exact ⟨[c] :: others, .fed (halone hreturn) hlater⟩
    · exact ⟨_, .fed (hfront hline hne) hlater⟩
  | returned hline hlater => exact ⟨_, .returned (hcons hline) hlater⟩

/-- Every text consists of some lines. -/
theorem exists_lined (t : Text) : ∃ ls, Lined ls t := by
  induction t with
  | nil => exact ⟨[], .nothing⟩
  | cons c t ih =>
    obtain ⟨ls, hls⟩ := ih
    by_cases hc : c = 0x0a
    · subst hc
      exact ⟨[] :: ls, .fed ⟨List.not_mem_nil, nofun⟩ hls⟩
    · exact hls.exists_cons hc

theorem lined_iff : Lined ls t ↔ lines t = ls := by
  constructor
  · exact Lined.lines_eq
  · rintro rfl
    obtain ⟨ls, hls⟩ := exists_lined t
    rwa [hls.lines_eq]

end

/-- The lines of a text are those that it consists of, whether line feeds alone or with a carriage
return in front end them, and whether anything ends the last one. A line feed behind a text ends its
lines, and what is behind the line feed has its own. -/
theorem lines_lined (t : Text) :
    (∀ ls, Lined ls t ↔ lines t = ls) ∧
      ∀ more, lines (t ++ ofString "\n" ++ more) = lines (t ++ ofString "\n") ++ lines more := by
  refine ⟨fun ls => lined_iff, fun more => ?_⟩
  have hfeed : t ++ ofString "\n" ++ more = t ++ 0x0a :: more := List.append_assoc _ _ _
  have hend : t ++ ofString "\n" = t ++ 0x0a :: [] := rfl
  rw [hfeed, hend, lines_append_cons, lines_append_cons, lines_nil, List.append_nil]

/-- An empty line, both ways to end one, and a line that nothing ends. -/
example : lines (ofString "a\r\n\nb") = [ofString "a", [], ofString "b"] := by rfl

end LocalNet.Text
