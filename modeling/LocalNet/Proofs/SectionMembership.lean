import LocalNet.Proofs.Sections
import Mathlib.Logic.Relation

/-!
# Sections and layout of a configuration file

The reader of the DHCP client's file remembers of the lines before only whether the section of the
interface is open. That is enough to tell which header is the nearest one before a line.

- `StaticConfig.SetBy`: a line sets a static address in the section that a header opens;
- `StaticConfig.Edit`: changes of a file's layout;
- `StaticConfig.settings`: what a file says apart from its layout;
- `StaticConfig.clientHasStatic_iff_setBy`: the answer is read off the sections, and no change of the
  layout affects it.
-/

namespace LocalNet.StaticConfig

/-! ## Sections -/

/-- A header opens a section. -/
def IsHeader (line : Text) : Prop :=
  line.fields.head? = some (Text.ofString "interface")

/-- Apart from blanks around it, the line starts with the directive of a static address. -/
def IsDirective (line : Text) : Prop :=
  directive <+: line.trim

/-- Line `j` sets a static address, and the nearest header before it is line `i`, which opens the
section of the name. -/
structure SetBy (lines : List Text) (name : Text) (i j : Nat) : Prop where
  /-- The header comes first. -/
  lt : i < j
  /-- The header opens the section of the name. -/
  header : ∃ line, lines[i]? = some line ∧ IsHeader line ∧ line.fields[1]? = some name
  /-- No other header stands between the two lines. -/
  nearest : ∀ k line, i < k → k < j → lines[k]? = some line → ¬ IsHeader line
  /-- The directive sets the address. -/
  isDirective : ∃ line, lines[j]? = some line ∧ IsDirective line

/-- The first field of a directive. -/
theorem IsDirective.exists_fields {line : Text} (h : IsDirective line) :
    ∃ more, line.fields = Text.ofString "static" :: more := by
  obtain ⟨rest, hrest⟩ := h
  refine ⟨(Text.ofString "ip_address=" ++ rest).fields, ?_⟩
  rw [← Text.fields_trim, ← hrest, directive_eq, List.append_assoc, fields_static]

theorem IsDirective.not_isHeader {line : Text} (h : IsDirective line) : ¬ IsHeader line := by
  obtain ⟨more, hfields⟩ := h.exists_fields
  rw [IsHeader, hfields, List.head?_cons]
  decide

/-! ## Single lines of a file -/

section Lines

variable {line : Text} (name : Text) (inSection : Bool) (others : List Text)

/-- A comment has neither the first field of a header nor the one of a directive. -/
theorem head?_fields_of_comment (h : line.head? = some '#'.toUInt8) (word : Text)
    (hword : word.head? ≠ some '#'.toUInt8) : line.fields.head? ≠ some word := by
  obtain ⟨rest, rfl⟩ := List.head?_eq_some_iff.mp h
  obtain ⟨more, fields, hfields⟩ :=
    Text.exists_fields_cons (show Text.isBlank '#'.toUInt8 = false by decide) rest
  rw [hfields, List.head?_cons]
  rintro ⟨⟩
  exact hword rfl

theorem findStatic_of_isHeader (h : IsHeader line) :
    findStatic name inSection (line.trim :: others) =
      findStatic name (line.fields[1]? == some name) others := by
  obtain ⟨more, hfields⟩ := List.head?_eq_some_iff.mp h
  have hcomment : line.trim.head? ≠ some '#'.toUInt8 := by
    intro hhead
    refine head?_fields_of_comment hhead (Text.ofString "interface") (by decide) ?_
    rw [Text.fields_trim]
    exact h
  rw [findStatic_header ((Text.fields_trim line).trans hfields) hcomment, hfields,
    List.getElem?_cons_succ, List.head?_eq_getElem?]

theorem findStatic_of_isDirective (h : IsDirective line) :
    findStatic name inSection (line.trim :: others) =
      (inSection || findStatic name inSection others) := by
  obtain ⟨more, hfields⟩ := h.exists_fields
  rw [← Text.fields_trim] at hfields
  cases inSection with
  | false => rw [findStatic_outside hfields (by decide), Bool.false_or]
  | true =>
    have hcomment : line.trim.head? ≠ some '#'.toUInt8 := by
      intro hhead
      refine head?_fields_of_comment hhead (Text.ofString "static") (by decide) ?_
      rw [hfields, List.head?_cons]
    rw [findStatic_directive hfields (by decide) hcomment h, Bool.true_or]

theorem findStatic_of_other (hheader : ¬ IsHeader line) (hdirective : ¬ IsDirective line) :
    findStatic name inSection (line.trim :: others) = findStatic name inSection others := by
  have hprefix : directive.isPrefixOf line.trim = false := by
    rw [Bool.eq_false_iff, ne_eq, List.isPrefixOf_iff_prefix]
    exact hdirective
  rw [IsHeader, ← Text.fields_trim] at hheader
  rw [findStatic]
  split
  · rfl
  · next first more hfields =>
    rw [hfields, List.head?_cons, Option.some.injEq] at hheader
    rw [if_neg hheader, hprefix, Bool.and_false]
    split <;> rfl

end Lines

/-! ## The flag and the nearest header -/

/-- A directive that no header precedes. -/
def Leads (lines : List Text) : Prop :=
  ∃ (j : Nat) (line : Text), lines[j]? = some line ∧ IsDirective line ∧
    ∀ k < j, ∀ other, lines[k]? = some other → ¬ IsHeader other

/-- A header of the name, with a directive behind it before any other header. -/
def Owns (name : Text) (lines : List Text) : Prop :=
  ∃ (i : Nat) (header : Text), lines[i]? = some header ∧ IsHeader header ∧ header.fields[1]? = some name ∧
    Leads (lines.drop (i + 1))

theorem not_leads_nil : ¬ Leads [] := by
  rintro ⟨j, line, hline, -⟩
  cases hline

theorem leads_cons {line : Text} {lines : List Text} :
    Leads (line :: lines) ↔ IsDirective line ∨ ¬ IsHeader line ∧ Leads lines := by
  constructor
  · rintro ⟨j, found, hfound, hdirective, hbefore⟩
    cases j with
    | zero =>
      obtain rfl : line = found := Option.some.inj hfound
      exact .inl hdirective
    | succ j =>
      refine .inr ⟨hbefore 0 (Nat.succ_pos j) line rfl, j, found, hfound, hdirective, ?_⟩
      intro k hk other hother
      exact hbefore (k + 1) (Nat.succ_lt_succ hk) other hother
  · rintro (hdirective | ⟨hheader, j, found, hfound, hdirective, hbefore⟩)
    · exact ⟨0, line, rfl, hdirective, fun k hk => absurd hk (Nat.not_lt_zero k)⟩
    · refine ⟨j + 1, found, hfound, hdirective, ?_⟩
      intro k hk other hother
      cases k with
      | zero =>
        obtain rfl : line = other := Option.some.inj hother
        exact hheader
      | succ k => exact hbefore k (Nat.lt_of_succ_lt_succ hk) other hother

theorem not_owns_nil (name : Text) : ¬ Owns name [] := by
  rintro ⟨i, header, hheader, -⟩
  cases hheader

theorem owns_cons {name line : Text} {lines : List Text} : Owns name (line :: lines) ↔
    (IsHeader line ∧ line.fields[1]? = some name ∧ Leads lines) ∨ Owns name lines := by
  constructor
  · rintro ⟨i, header, hat, hheader, hname, hleads⟩
    cases i with
    | zero =>
      obtain rfl : line = header := Option.some.inj hat
      exact .inl ⟨hheader, hname, hleads⟩
    | succ i => exact .inr ⟨i, header, hat, hheader, hname, hleads⟩
  · rintro (⟨hheader, hname, hleads⟩ | ⟨i, header, hat, hheader, hname, hleads⟩)
    · exact ⟨0, line, rfl, hheader, hname, hleads⟩
    · exact ⟨i + 1, header, hat, hheader, hname, hleads⟩

/-- A search finds a directive of the open section, or one in a section that is opened later. -/
theorem findStatic_iff (name : Text) (inSection : Bool) (lines : List Text) :
    findStatic name inSection (lines.map Text.trim) = true ↔
      (inSection = true ∧ Leads lines) ∨ Owns name lines := by
  -- The flag says whether the nearest header so far is one of the name, so it is general.
  induction lines generalizing inSection with
  | nil => simp [findStatic, not_leads_nil, not_owns_nil]
  | cons line lines ih =>
    rw [List.map_cons, leads_cons, owns_cons]
    by_cases hheader : IsHeader line
    · have hdirective : ¬ IsDirective line := fun h => h.not_isHeader hheader
      rw [findStatic_of_isHeader name inSection _ hheader, ih, beq_iff_eq]
      simp only [hheader, hdirective, not_true_eq_false, false_and, or_false, and_false, true_and,
        false_or]
    · by_cases hdirective : IsDirective line
      · rw [findStatic_of_isDirective name inSection _ hdirective, Bool.or_eq_true, ih]
        simp only [hheader, hdirective, true_or, and_true, false_and, false_or]
        -- Directives behind this one add nothing.
        rw [← or_assoc, or_iff_left_of_imp And.left]
      · rw [findStatic_of_other name inSection _ hheader hdirective, ih]
        simp only [hheader, hdirective, not_false_eq_true, true_and, false_or, false_and]

/-- The directive and its header have positions in the file. -/
theorem owns_iff_setBy {name : Text} {lines : List Text} :
    Owns name lines ↔ ∃ i j, SetBy lines name i j := by
  constructor
  · rintro ⟨i, header, hat, hheader, hname, j, line, hline, hdirective, hbefore⟩
    rw [List.getElem?_drop] at hline
    refine ⟨i, i + 1 + j, by omega, ⟨header, hat, hheader, hname⟩, ?_, line, hline, hdirective⟩
    intro k other hlt hk hother
    refine hbefore (k - (i + 1)) (by omega) other ?_
    rw [List.getElem?_drop, Nat.add_sub_cancel' hlt]
    exact hother
  · rintro ⟨i, j, hlt, ⟨header, hat, hheader, hname⟩, hnearest, line, hline, hdirective⟩
    refine ⟨i, header, hat, hheader, hname, j - (i + 1), line, ?_, hdirective, ?_⟩
    · rw [List.getElem?_drop, Nat.add_sub_cancel' hlt]
      exact hline
    · intro k hk other hother
      rw [List.getElem?_drop] at hother
      exact hnearest (i + 1 + k) other (by omega) (by omega) hother

/-! ## What a file says apart from its layout -/

/-- A line with a setting has octets and is no comment. -/
def isSetting (line : Text) : Bool :=
  !line.isEmpty && line.head? != some '#'.toUInt8

/-- The lines of a file with a setting, without the blanks around them. -/
def settings (text : Text) : List Text :=
  (text.lines.map Text.trim).filter isSetting

theorem findStatic_filter_isSetting (name : Text) (inSection : Bool) (lines : List Text) :
    findStatic name inSection (lines.filter isSetting) = findStatic name inSection lines := by
  induction lines generalizing inSection with
  | nil => rfl
  | cons line lines ih =>
    by_cases hsetting : isSetting line = true
    · rw [List.filter_cons_of_pos hsetting, findStatic, findStatic]
      simp only [ih]
    · rw [List.filter_cons_of_neg hsetting, ih]
      -- A line without a setting is empty or a comment.
      cases line with
      | nil => rw [findStatic_blank]
      | cons c rest =>
        have hcomment : (c :: rest).head? = some '#'.toUInt8 := by simpa [isSetting] using hsetting
        rw [findStatic_comment hcomment]

theorem clientHasStatic_eq (text name : Text) :
    clientHasStatic text name = findStatic name false (settings text) := by
  rw [clientHasStatic, settings, findStatic_filter_isSetting]

@[simp]
theorem settings_nil : settings [] = [] := rfl

/-- A line feed separates the settings before it from those behind it. -/
theorem settings_append_cons (before after : Text) :
    settings (before ++ 0x0a :: after) = settings before ++ settings after := by
  have hempty : [Text.trim []].filter isSetting = [] := rfl
  unfold settings
  rw [Text.lines_append_cons, List.map_append, List.filter_append]
  -- The line feed may have made an empty line, which has no setting.
  rcases Text.map_dropReturn_split before with h | h
  · rw [h]
  · rw [h, List.map_append, List.map_singleton, List.filter_append, hempty, List.append_nil]

/-- A text without line feeds is one line. -/
theorem settings_line {line : Text} (hline : (0x0a : UInt8) ∉ line) :
    settings line = [line.trim].filter isSetting := by
  have hfeed : settings (line ++ [0x0a]) = settings line := by
    rw [settings_append_cons, settings_nil, List.append_nil]
  rw [← hfeed, settings, Text.lines_line_append hline, Text.lines_nil, List.map_singleton,
    Text.trim_dropReturn]

/-! ## Changes of the layout -/

/-- What follows the text starts a line. -/
def EndsLine (text : Text) : Prop :=
  text = [] ∨ ∃ lines, text = lines ++ [0x0a]

/-- The first octet that is no blank, if there is one, starts a comment. -/
def IsSilent (line : Text) : Prop :=
  ∀ c ∈ (line.dropWhile Text.isBlank).head?, c = '#'.toUInt8

/-- A change of a file's layout. -/
inductive Edit : Text → Text → Prop
  /-- Blanks come to stand in front of a line. -/
  | indent (before blanks after : Text) (hbefore : EndsLine before)
    (hblanks : ∀ c ∈ blanks, Text.isBlank c = true) (hfeed : (0x0a : UInt8) ∉ blanks) :
    Edit (before ++ after) (before ++ (blanks ++ after))
  /-- A line feed becomes a carriage return and a line feed. -/
  | carriageReturn (before after : Text) :
    Edit (before ++ 0x0a :: after) (before ++ 0x0d :: 0x0a :: after)
  /-- The last line is ended. -/
  | lastFeed (text : Text) : Edit text (text ++ [0x0a])
  /-- A comment or a line of blanks is inserted. -/
  | line (before line after : Text) (hbefore : EndsLine before)
    (hline : (0x0a : UInt8) ∉ line) (hsilent : IsSilent line) :
    Edit (before ++ after) (before ++ (line ++ 0x0a :: after))

theorem EndsLine.settings_append {before : Text} (h : EndsLine before) (after : Text) :
    settings (before ++ after) = settings before ++ settings after := by
  rcases h with rfl | ⟨lines, rfl⟩
  · rfl
  · rw [List.append_assoc, List.singleton_append, settings_append_cons, settings_append_cons,
      settings_nil, List.append_nil]

/-- Blanks in front of a line are no part of a setting. -/
theorem settings_blanks_append {blanks : Text} (hblanks : ∀ c ∈ blanks, Text.isBlank c = true)
    (hfeed : (0x0a : UInt8) ∉ blanks) (after : Text) :
    settings (blanks ++ after) = settings after := by
  have hfirst (line : Text) (hline : (0x0a : UInt8) ∉ line) :
      settings (blanks ++ line) = settings line := by
    have hboth : (0x0a : UInt8) ∉ blanks ++ line := by simp [hfeed, hline]
    rw [settings_line hboth, settings_line hline, Text.trim_blanks_append hblanks]
  by_cases hmem : (0x0a : UInt8) ∈ after
  · obtain ⟨line, others, rfl, hline⟩ := List.eq_append_cons_of_mem hmem
    rw [← List.append_assoc, settings_append_cons, hfirst line hline, settings_append_cons]
  · exact hfirst after hmem

/-- A carriage return at the end of a line is no part of a setting. -/
theorem settings_concat_return (text : Text) : settings (text ++ [0x0d]) = settings text := by
  have hlast (line : Text) (hline : (0x0a : UInt8) ∉ line) :
      settings (line ++ [0x0d]) = settings line := by
    have hboth : (0x0a : UInt8) ∉ line ++ [0x0d] := by simp [hline]
    rw [settings_line hboth, settings_line hline, Text.trim_concat (by decide)]
  cases hcut : Text.cutLast? 0x0a text with
  | none => exact hlast text (Text.cutLast?_eq_none_iff.mp hcut)
  | some cut =>
    obtain ⟨others, line⟩ := cut
    obtain ⟨rfl, hline⟩ := Text.cutLast?_eq_some_iff.mp hcut
    rw [List.append_assoc, List.cons_append, settings_append_cons, hlast line hline,
      settings_append_cons]

theorem IsSilent.settings_eq {line : Text} (hsilent : IsSilent line)
    (hline : (0x0a : UInt8) ∉ line) : settings line = [] := by
  rw [settings_line hline, List.filter_cons_of_neg, List.filter_nil]
  rw [IsSilent, ← Text.head?_trim] at hsilent
  cases htrim : line.trim with
  | nil => decide
  | cons c rest =>
    obtain rfl : c = '#'.toUInt8 := hsilent c (by rw [htrim]; rfl)
    simp [isSetting]

/-- A change of the layout leaves the settings as they are. -/
theorem Edit.settings_eq {text text' : Text} (h : Edit text text') :
    settings text' = settings text := by
  cases h with
  | indent before blanks after hbefore hblanks hfeed =>
    rw [hbefore.settings_append, settings_blanks_append hblanks hfeed, hbefore.settings_append]
  | carriageReturn before after =>
    rw [List.append_cons, settings_append_cons, settings_concat_return, settings_append_cons]
  | lastFeed => rw [settings_append_cons, settings_nil, List.append_nil]
  | line before line after hbefore hline hsilent =>
    rw [hbefore.settings_append, settings_append_cons, hsilent.settings_eq hline, List.nil_append,
      hbefore.settings_append]

/-- So does any number of changes, made or undone. -/
theorem settings_eq_of_eqvGen {text text' : Text} (h : Relation.EqvGen Edit text text') :
    settings text' = settings text := by
  induction h with
  | rel _ _ hedit => exact hedit.settings_eq
  | refl _ => rfl
  | symm _ _ _ ih => exact ih.symm
  | trans _ _ _ _ _ first second => exact second.trans first

/-! ## Main result -/

/-- An interface is static by the file of the DHCP client if a directive of a static address stands
in a section of its name. Nothing depends on the layout of the file: its indentation, the kind of
its line ends, the end of its last line, its blank lines and its comments. -/
theorem clientHasStatic_iff_setBy (text name : Text) :
    (clientHasStatic text name = true ↔ ∃ i j, SetBy text.lines name i j) ∧
      ∀ other, Relation.EqvGen Edit text other →
        clientHasStatic other name = clientHasStatic text name := by
  constructor
  · rw [clientHasStatic, findStatic_iff, ← owns_iff_setBy]
    simp only [Bool.false_eq_true, false_and, false_or]
  · intro other hlayout
    rw [clientHasStatic_eq, clientHasStatic_eq, settings_eq_of_eqvGen hlayout]

/-- The section of `eth0` in two layouts: the second has a carriage return, a comment and a line feed
at the end. -/
theorem clientHasStatic_iff_setBy_twoLayouts :
    let text := Text.ofString "interface eth1\ninterface eth0\nstatic ip_address=192.0.2.1/24"
    let other := Text.ofString
      "interface eth1\ninterface eth0\r\n # interface eth1\nstatic ip_address=192.0.2.1/24\n"
    SetBy text.lines (Text.ofString "eth0") 1 2 ∧ Relation.EqvGen Edit text other ∧
      clientHasStatic other (Text.ofString "eth0") = true := by
  have hset : SetBy (Text.ofString
      "interface eth1\ninterface eth0\nstatic ip_address=192.0.2.1/24").lines
      (Text.ofString "eth0") 1 2 := by
    refine ⟨by decide, ⟨_, rfl, rfl, rfl⟩, ?_, _, rfl, ?_⟩
    · intro k line hlt hk
      omega
    · exact ⟨Text.ofString "192.0.2.1/24", rfl⟩
  have hreturn : Edit
      (Text.ofString "interface eth1\ninterface eth0\nstatic ip_address=192.0.2.1/24")
      (Text.ofString "interface eth1\ninterface eth0\r\nstatic ip_address=192.0.2.1/24") :=
    .carriageReturn (Text.ofString "interface eth1\ninterface eth0")
      (Text.ofString "static ip_address=192.0.2.1/24")
  have hcomment : Edit
      (Text.ofString "interface eth1\ninterface eth0\r\nstatic ip_address=192.0.2.1/24")
      (Text.ofString
        "interface eth1\ninterface eth0\r\n # interface eth1\nstatic ip_address=192.0.2.1/24") := by
    refine Edit.line (Text.ofString "interface eth1\ninterface eth0\r\n")
      (Text.ofString " # interface eth1") (Text.ofString "static ip_address=192.0.2.1/24")
      (.inr ⟨Text.ofString "interface eth1\ninterface eth0\r", rfl⟩) (by decide) ?_
    intro c hc
    exact (Option.some.inj hc).symm
  have hfeed := Edit.lastFeed (Text.ofString
    "interface eth1\ninterface eth0\r\n # interface eth1\nstatic ip_address=192.0.2.1/24")
  have hlayout := ((Relation.EqvGen.rel _ _ hreturn).trans _ _ _ (.rel _ _ hcomment)).trans _ _ _
    (.rel _ _ hfeed)
  obtain ⟨hiff, hsame⟩ := clientHasStatic_iff_setBy
    (Text.ofString "interface eth1\ninterface eth0\nstatic ip_address=192.0.2.1/24")
    (Text.ofString "eth0")
  exact ⟨hset, hlayout, (hsame _ hlayout).trans (hiff.mpr ⟨1, 2, hset⟩)⟩

end LocalNet.StaticConfig
