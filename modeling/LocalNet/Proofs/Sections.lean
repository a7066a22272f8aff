import LocalNet.StaticConfig
import LocalNet.Proofs.Printing

/-!
# Sections added to a configuration file

A stanza that is added to the file of the DHCP client opens a section of its own, whatever the file
held before: an unfinished last line, a carriage return or an open section.

- `StaticConfig.stanza_eq`: the lines of a stanza;
- `StaticConfig.clientHasStatic_append_stanza`: the interface of the stanza becomes static;
- `StaticConfig.clientHasStatic_append_stanza_of_ne`: no other interface is affected;
- `StaticConfig.definitionsHaveStatic_append_stanza`: a stanza defines nothing.
-/

namespace LocalNet.StaticConfig

/-! ## Single lines -/

/-- A word that a space ends is the first field. -/
theorem fields_space {word : Text} (hne : word ≠ []) (hword : word.any Text.isBlank = false)
    (rest : Text) : (word ++ Text.ofString " " ++ rest).fields = word :: rest.fields := by
  have hspace : Text.ofString " " = [' '.toUInt8] := by decide
  have hall : ∀ c ∈ word, Text.isBlank c = false := by simpa using hword
  rw [hspace, List.append_assoc, List.singleton_append,
    Text.fields_word_append hne hall (by decide)]

theorem ofString_comment : Text.ofString "# " = Text.ofString "#" ++ Text.ofString " " := rfl

theorem ofString_header :
    Text.ofString "interface " = Text.ofString "interface" ++ Text.ofString " " := rfl

theorem ofString_static : Text.ofString "static " = Text.ofString "static" ++ Text.ofString " " :=
  rfl

theorem fields_comment (rest : Text) :
    (Text.ofString "# " ++ rest).fields = Text.ofString "#" :: rest.fields := by
  rw [ofString_comment]
  exact fields_space (by decide) rfl rest

theorem fields_header (rest : Text) :
    (Text.ofString "interface " ++ rest).fields = Text.ofString "interface" :: rest.fields := by
  rw [ofString_header]
  exact fields_space (by decide) rfl rest

theorem fields_static (rest : Text) :
    (Text.ofString "static " ++ rest).fields = Text.ofString "static" :: rest.fields := by
  rw [ofString_static]
  exact fields_space (by decide) rfl rest

/-- A comment says nothing. -/
theorem findStatic_comment {line : Text} (hline : line.head? = some '#'.toUInt8) (name : Text)
    (inSection : Bool) (others : List Text) :
    findStatic name inSection (line :: others) = findStatic name inSection others := by
  rw [findStatic]
  split <;> simp [hline]

/-- An empty line says nothing. -/
theorem findStatic_blank (name : Text) (inSection : Bool) (others : List Text) :
    findStatic name inSection ([] :: others) = findStatic name inSection others := by
  rw [findStatic, Text.fields_nil]

/-- A header opens the section of its name and closes all others. -/
theorem findStatic_header {line : Text} {names : List Text}
    (hfields : line.fields = Text.ofString "interface" :: names)
    (hline : line.head? ≠ some '#'.toUInt8) (name : Text) (inSection : Bool) (others : List Text) :
    findStatic name inSection (line :: others) =
      findStatic name (names.head? == some name) others := by
  simp [findStatic, hfields, hline]

/-- A line that is neither a comment nor a header says nothing outside a section. -/
theorem findStatic_outside {line first : Text} {more : List Text}
    (hfields : line.fields = first :: more) (hfirst : first ≠ Text.ofString "interface")
    (name : Text) (others : List Text) :
    findStatic name false (line :: others) = findStatic name false others := by
  simp [findStatic, hfields, hfirst]

/-- A directive inside the section makes the interface static. -/
theorem findStatic_directive {line first : Text} {more : List Text}
    (hfields : line.fields = first :: more) (hfirst : first ≠ Text.ofString "interface")
    (hline : line.head? ≠ some '#'.toUInt8) (hdirective : directive <+: line) (name : Text)
    (others : List Text) : findStatic name true (line :: others) = true := by
  simp [findStatic, hfields, hfirst, hline, hdirective]

/-! ## Lines after other lines -/

/-- Lines that find a static address from either state find it after any others. -/
theorem findStatic_append_of_true {name : Text} {ls : List Text}
    (hls : ∀ inSection, findStatic name inSection ls = true) (inSection : Bool)
    (before : List Text) : findStatic name inSection (before ++ ls) = true := by
  -- The lines before may open or close sections, so the state is general.
  induction before generalizing inSection with
  | nil => exact hls inSection
  | cons line before ih =>
    rw [List.cons_append, findStatic]
    split
    · exact ih inSection
    · split
      · exact ih inSection
      · split
        · exact ih _
        · split
          · rfl
          · exact ih inSection

/-- Lines that find no static address from either state change nothing after any others. -/
theorem findStatic_append_of_false {name : Text} {ls : List Text}
    (hls : ∀ inSection, findStatic name inSection ls = false) (inSection : Bool)
    (before : List Text) :
    findStatic name inSection (before ++ ls) = findStatic name inSection before := by
  induction before generalizing inSection with
  | nil => exact hls inSection
  | cons line before ih =>
    rw [List.cons_append, findStatic, findStatic]
    split
    · exact ih inSection
    · rw [ih inSection, ih]

/-! ## The lines of a stanza -/

/-- The lines of a stanza after the empty one at its start. -/
def stanzaLines (name : Text) (network : Network) (gateway : Option Address) (dns : Address) :
    List Text :=
  [Text.ofString "# " ++ (name ++ Text.ofString " added by hostnet."),
    Text.ofString "interface " ++ name,
    Text.ofString "static " ++ (Text.ofString "ip_address=" ++ network.toText)]
    ++ gateway.toList.map (fun address =>
      Text.ofString "static " ++ (Text.ofString "routers=" ++ address.toText))
    ++ [Text.ofString "static " ++ (Text.ofString "domain_name_servers=" ++ dns.toText), []]

/-- The directive of a static address is the word `static` and a setting. -/
theorem directive_eq : directive = Text.ofString "static " ++ Text.ofString "ip_address=" := by
  decide

section Stanza

variable (name : Text) (network : Network) (gateway : Option Address) (dns : Address)

/-- A stanza is an empty line and the others, each ended by a line feed. -/
theorem stanza_eq : stanza name network gateway dns =
    0x0a :: (stanzaLines name network gateway dns).flatMap (· ++ [0x0a]) := by
  have hstart : Text.ofString "\n# " = 0x0a :: Text.ofString "# " := by decide
  have hcomment : Text.ofString " added by hostnet.\n" =
      Text.ofString " added by hostnet." ++ [0x0a] := by decide
  have hrouter : Text.ofString "static routers=" =
      Text.ofString "static " ++ Text.ofString "routers=" := by decide
  have hdns : Text.ofString "static domain_name_servers=" =
      Text.ofString "static " ++ Text.ofString "domain_name_servers=" := by decide
  have hfeed : Text.ofString "\n" = [0x0a] := by decide
  have hend : Text.ofString "\n\n" = [0x0a, 0x0a] := by decide
  cases gateway <;>
    simp [stanza, stanzaLines, directive_eq, hstart, hcomment, hrouter, hdns, hfeed, hend]

/-- No line of a stanza has a line feed in it. -/
theorem lineFeed_notMem_stanzaLines (hname : ∀ c ∈ name, Text.isBlank c = false) :
    ∀ line ∈ stanzaLines name network gateway dns, (0x0a : UInt8) ∉ line := by
  have hblank : Text.isBlank 0x0a = true := by decide
  have htext : Network.isTextOctet 0x0a = false := by decide
  have hname' : (0x0a : UInt8) ∉ name := fun hmem => by simp [hname _ hmem] at hblank
  have hnetwork : (0x0a : UInt8) ∉ network.toText := fun hmem => by
    simp [network.isTextOctet_toText _ hmem] at htext
  have haddress : ∀ a : Address, (0x0a : UInt8) ∉ a.toText := fun a hmem => by
    simp [Network.isTextOctet_of_address (a.isTextOctet_toText _ hmem)] at htext
  have hcomment : (0x0a : UInt8) ∉ Text.ofString "# " := by decide
  have hcomment' : (0x0a : UInt8) ∉ Text.ofString " added by hostnet." := by decide
  have hheader : (0x0a : UInt8) ∉ Text.ofString "interface " := by decide
  have hstatic : (0x0a : UInt8) ∉ Text.ofString "static " := by decide
  have hsettings : (0x0a : UInt8) ∉ Text.ofString "ip_address=" ∧
      (0x0a : UInt8) ∉ Text.ofString "routers=" ∧
      (0x0a : UInt8) ∉ Text.ofString "domain_name_servers=" := by decide
  cases gateway <;> simp [stanzaLines, hname', hnetwork, haddress, hcomment, hcomment', hheader,
    hstatic, hsettings]

/-- No line of a stanza starts a definition. -/
theorem head?_fields_stanzaLines :
    ∀ line ∈ stanzaLines name network gateway dns,
      line.fields.head? ≠ some (Text.ofString "iface") := by
  have hwords : Text.ofString "#" ≠ Text.ofString "iface" ∧
      Text.ofString "interface" ≠ Text.ofString "iface" ∧
      Text.ofString "static" ≠ Text.ofString "iface" := by decide
  cases gateway <;> simp [stanzaLines, fields_comment, fields_header, fields_static, hwords]

/-- The lines of a file after a stanza has been added: an empty one may come between. -/
theorem lines_append_stanza (hname : ∀ c ∈ name, Text.isBlank c = false) (old : Text) :
    (old ++ stanza name network gateway dns).lines =
        old.lines ++ (stanzaLines name network gateway dns).map Text.dropReturn ∨
      (old ++ stanza name network gateway dns).lines =
        old.lines ++ [] :: (stanzaLines name network gateway dns).map Text.dropReturn := by
  -- The line feed at the start of the stanza ends the last line of the old content, or adds an
  -- empty one if that has been ended already.
  rw [stanza_eq, Text.lines_append_cons,
    Text.lines_terminated (lineFeed_notMem_stanzaLines name network gateway dns hname)]
  rcases Text.map_dropReturn_split old with h | h <;> simp [h]

end Stanza

/-! ## Scanning a stanza -/

/-- Outside a section directives and empty lines say nothing. -/
theorem findStatic_statics {ls : List Text}
    (hls : ∀ line ∈ ls, line = [] ∨ ∃ rest, line = Text.ofString "static " ++ rest) (name : Text) :
    findStatic name false (ls.map Text.trim) = false := by
  induction ls with
  | nil => rfl
  | cons line ls ih =>
    rw [List.forall_mem_cons] at hls
    rw [List.map_cons]
    rcases hls.1 with rfl | ⟨rest, rfl⟩
    · have htrim : Text.trim [] = [] := rfl
      rw [htrim, findStatic_blank, ih hls.2]
    · have hfields := (Text.fields_trim _).trans (fields_static rest)
      rw [findStatic_outside hfields (by decide), ih hls.2]

section Stanza

variable {name : Text} (hne : name ≠ []) (hname : ∀ c ∈ name, Text.isBlank c = false)
  (network : Network) (gateway : Option Address) (dns : Address)

include hne hname

/-- The comment and the header of a stanza close all sections and open that of its name. -/
theorem findStatic_opening (asked : Text) (inSection : Bool) (others : List Text) :
    findStatic asked inSection
        (Text.trim (Text.ofString "# " ++ (name ++ Text.ofString " added by hostnet.")) ::
          Text.trim (Text.ofString "interface " ++ name) :: others) =
      findStatic asked (name == asked) others := by
  have hcomment (rest : Text) :
      (Text.trim (Text.ofString "# " ++ rest)).head? = some '#'.toUInt8 := by
    rw [ofString_comment, List.append_assoc,
      Text.head?_trim_append (by decide) (by decide) (by decide)]
    rfl
  have hheader : (Text.trim (Text.ofString "interface " ++ name)).head? ≠ some '#'.toUInt8 := by
    rw [ofString_header, List.append_assoc,
      Text.head?_trim_append (by decide) (by decide) (by decide)]
    decide
  have hfields := (Text.fields_trim _).trans (fields_header name)
  rw [Text.fields_of_word hne hname] at hfields
  rw [findStatic_comment (hcomment _), findStatic_header hfields hheader]
  simp

/-- A stanza makes its interface static, whatever section it meets. -/
theorem findStatic_stanzaLines (inSection : Bool) :
    findStatic name inSection ((stanzaLines name network gateway dns).map Text.trim) = true := by
  -- The directive of the address follows the header at once.
  have hfields := (Text.fields_trim _).trans
    (fields_static (Text.ofString "ip_address=" ++ network.toText))
  rw [stanzaLines, List.append_assoc, List.cons_append, List.cons_append, List.map_cons,
    List.map_cons, findStatic_opening hne hname, beq_self_eq_true, List.cons_append, List.map_cons]
  refine findStatic_directive hfields (by decide) ?_ ?_ _ _ <;>
    rw [← List.append_assoc, ← directive_eq]
  · rw [Text.head?_trim_append (by decide) (by decide) (by decide)]
    decide
  · rw [Text.trim_append (by decide) (by decide) (by decide)]
    exact List.prefix_append _ _

/-- A stanza makes no other interface static, whatever section it meets. -/
theorem findStatic_stanzaLines_of_ne {asked : Text} (hasked : asked ≠ name) (inSection : Bool) :
    findStatic asked inSection ((stanzaLines name network gateway dns).map Text.trim) = false := by
  have hother : (name == asked) = false := beq_eq_false_iff_ne.mpr hasked.symm
  rw [stanzaLines, List.append_assoc, List.cons_append, List.cons_append, List.map_cons,
    List.map_cons, findStatic_opening hne hname, hother]
  -- What follows the header starts with `static` or is empty.
  apply findStatic_statics
  cases gateway <;> simp

end Stanza

/-! ## Whole files -/

section Whole

variable {name : Text} (hne : name ≠ []) (hname : ∀ c ∈ name, Text.isBlank c = false)
  (network : Network) (gateway : Option Address) (dns : Address) (old : Text)

include hname

/-- Whether the trimmed lines of a file find a static address once a stanza has been added to it. -/
theorem clientHasStatic_append (asked : Text) :
    clientHasStatic (old ++ stanza name network gateway dns) asked =
        findStatic asked false (old.lines.map Text.trim
          ++ (stanzaLines name network gateway dns).map Text.trim) ∨
      clientHasStatic (old ++ stanza name network gateway dns) asked =
        findStatic asked false (old.lines.map Text.trim
          ++ [] :: (stanzaLines name network gateway dns).map Text.trim) := by
  have htrim : Text.trim ∘ Text.dropReturn = Text.trim := funext Text.trim_dropReturn
  unfold clientHasStatic
  rcases lines_append_stanza name network gateway dns hname old with h | h
  · left
    rw [h, List.map_append, List.map_map, htrim]
  · right
    rw [h, List.map_append, List.map_cons, List.map_map, htrim]
    rfl

/-- A stanza defines no interface. -/
theorem definitionsHaveStatic_append_stanza (asked : Text) :
    definitionsHaveStatic (old ++ stanza name network gateway dns) asked =
      definitionsHaveStatic old asked := by
  have hstanza : ((stanzaLines name network gateway dns).map Text.dropReturn).any (fun line =>
      [Text.ofString "iface", asked, Text.ofString "inet", Text.ofString "static"].isPrefixOf
        line.fields) = false := by
    rw [List.any_eq_false]
    intro line hline
    obtain ⟨line, hmem, rfl⟩ := List.mem_map.mp hline
    have hhead := head?_fields_stanzaLines name network gateway dns line hmem
    rw [Text.fields_dropReturn]
    intro hprefix
    obtain ⟨rest, hrest⟩ := List.isPrefixOf_iff_prefix.mp hprefix
    exact hhead (by rw [← hrest]; rfl)
  unfold definitionsHaveStatic
  rcases lines_append_stanza name network gateway dns hname old with h | h
  · rw [h, List.any_append, hstanza, Bool.or_false]
  · rw [h, List.any_append, List.any_cons, hstanza, Bool.or_false, Text.fields_nil]
    simp

include hne

/-- A stanza makes its interface static, whatever stands before it. -/
theorem clientHasStatic_append_stanza :
    clientHasStatic (old ++ stanza name network gateway dns) name = true := by
  have hstanza := findStatic_stanzaLines hne hname network gateway dns
  rcases clientHasStatic_append hname network gateway dns old name with h | h
  · rw [h, findStatic_append_of_true hstanza]
  · rw [h, findStatic_append_of_true fun inSection => by rw [findStatic_blank, hstanza]]

/-- A stanza leaves the answers for all other interfaces as they are. -/
theorem clientHasStatic_append_stanza_of_ne {asked : Text} (hasked : asked ≠ name) :
    clientHasStatic (old ++ stanza name network gateway dns) asked = clientHasStatic old asked := by
  have hstanza := findStatic_stanzaLines_of_ne hne hname network gateway dns hasked
  rcases clientHasStatic_append hname network gateway dns old asked with h | h
  · rw [h, findStatic_append_of_false hstanza]
    rfl
  · rw [h, findStatic_append_of_false fun inSection => by rw [findStatic_blank, hstanza]]
    rfl

end Whole

end LocalNet.StaticConfig
