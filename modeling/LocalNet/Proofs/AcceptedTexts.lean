import LocalNet.Proofs.Gateways
import LocalNet.Proofs.NetworkForms

/-!
# Octets of accepted texts

Whatever is read as an address consists of hexadecimal digits, dots and colons, but only up to its
first zero octet: there the address ends, and what stands behind it makes no difference as long as
the whole text is not too long. The same holds of the address in the text of a network and of the
gateway in the output of a command.

- `Address.sixteen?_eq_none`: a text with any other octet is refused by both readers;
- `Address.parse?_eq_some_iff_untilNul`: only the octets before a zero octet are read;
- `Address.Named`: a text whose octets before a zero octet are those of an address;
- `Address.parse?_of_zeroOctet`: octets behind a zero octet do no harm;
- `Address.parse?_octets`: what the octets of all accepted texts are.
-/

namespace LocalNet

/-! ## The readers of both families -/

namespace Address

variable {t : Text} {c : UInt8} {a : Address}

theorem isTextOctet_eq_false_iff :
    isTextOctet c = false ↔ Hex.digit? c = none ∧ c ≠ '.'.toUInt8 ∧ c ≠ ':'.toUInt8 := by
  simp [isTextOctet, and_assoc]

theorem isDigit_eq_false (hc : Hex.digit? c = none) : Decimal.isDigit c = false := by
  rw [Bool.eq_false_iff]
  intro hdigit
  have hsome := Hex.isSome_digit?_of_isDigit hdigit
  rw [hc] at hsome
  cases hsome

theorem exists_colonPart_of_mem (hmem : c ∈ t) (hcolon : c ≠ ':'.toUInt8) :
    ∃ part ∈ colonParts t, c ∈ part := by
  rw [colonParts, if_neg (by simpa using List.ne_nil_of_mem hmem)]
  exact (Text.exists_piece_of_mem ':'.toUInt8 hmem).resolve_left hcolon

theorem groupsAndTail?_eq_none {parts : List Text} {part : Text} (hpart : part ∈ parts)
    (hmem : c ∈ part) (hc : Hex.digit? c = none) (hdot : c ≠ '.'.toUInt8) :
    groupsAndTail? parts = none := by
  fun_induction groupsAndTail? parts with
  | case1 => cases hpart
  | case2 last =>
    obtain rfl : part = last := List.mem_singleton.mp hpart
    rw [group?_eq_none hmem hc, dotted?_eq_none hmem (isDigit_eq_false hc) hdot]
    rfl
  | case3 first rest _ octets others hrest hfirst ih =>
    -- The octet is in the group in front or in what is read behind it.
    rcases List.mem_cons.mp hpart with rfl | hpart
    · rw [group?_eq_none hmem hc] at hfirst
      cases hfirst
    · rw [ih hpart] at hrest
      cases hrest
  | case4 => rfl

/-- Two adjacent colons stand between the parts of a text. -/
theorem eq_of_cutDoubleColon? {before after : Text}
    (h : cutDoubleColon? t = some (before, after)) :
    t = before ++ ':'.toUInt8 :: ':'.toUInt8 :: after := by
  fun_induction cutDoubleColon? t generalizing before with
  | case1 a b rest hcolons =>
    obtain ⟨rfl, rfl⟩ := hcolons
    cases h
    rfl
  | case2 a b rest _ ih =>
    obtain ⟨⟨before, after⟩, hcut, heq⟩ := Option.map_eq_some_iff.mp h
    cases heq
    rw [ih hcut, List.cons_append]
  | case3 => cases h

/-- A text with another octet than hexadecimal digits, dots and colons is not an IPv6 address. -/
theorem sixteen?_eq_none (hmem : c ∈ t) (hc : isTextOctet c = false) : sixteen? t = none := by
  obtain ⟨hdigit, hdot, hcolon⟩ := isTextOctet_eq_false_iff.mp hc
  rw [sixteen?]
  split
  · obtain ⟨part, hpart, hmem⟩ := exists_colonPart_of_mem hmem hcolon
    rw [groupsAndTail?_eq_none hpart hmem hdigit hdot]
    rfl
  · next before after hcut =>
    -- The octet stands on one side of the two colons.
    rw [eq_of_cutDoubleColon? hcut, List.mem_append, List.mem_cons, List.mem_cons] at hmem
    rcases hmem with hmem | hsep | hsep | hmem
    · obtain ⟨part, hpart, hmem⟩ := exists_colonPart_of_mem hmem hcolon
      rw [mapM_eq_none hpart (group?_eq_none hmem hdigit)]
    · exact absurd hsep hcolon
    · exact absurd hsep hcolon
    · obtain ⟨part, hpart, hmem⟩ := exists_colonPart_of_mem hmem hcolon
      rw [groupsAndTail?_eq_none hpart hmem hdigit hdot]
      cases (colonParts before).mapM group? <;> rfl

/-! ## Zero octets -/

theorem untilNul_untilNul (t : Text) : t.untilNul.untilNul = t.untilNul :=
  List.takeWhile_idem

/-- Of a text that is not too long, only the octets before the first zero octet are read. -/
theorem parse?_eq_some_iff_untilNul :
    parse? t = some a ↔ t.length ≤ maxTextLength ∧ parse? t.untilNul = some a := by
  have hshorter : t.untilNul.length ≤ t.length := (List.takeWhile_prefix _).length_le
  by_cases hlong : maxTextLength < t.length
  · rw [parse?, if_pos (.inr hlong)]
    exact iff_of_false (by simp) fun h => absurd h.1 (Nat.not_le.mpr hlong)
  · have hle := Nat.not_lt.mp hlong
    rw [and_iff_right hle, parse?, parse?, untilNul_untilNul]
    by_cases hnil : t.untilNul = []
    · -- Neither reader accepts a text of no octets.
      have hnone : (dotted? []).or (sixteen? []) = none := rfl
      simp [hnil, hnone]
    · have hne : t ≠ [] := by
        rintro rfl
        exact hnil rfl
      rw [if_neg (by simp [hne, hle]), if_neg (by simp [hnil, hshorter.trans hle])]

/-- The octets of the text before its first zero octet are those of an address, and are read as it. -/
structure Named (t : Text) (a : Address) : Prop where
  /-- They are hexadecimal digits, dots and colons. -/
  isTextOctet : ∀ c ∈ t.untilNul, isTextOctet c = true
  /-- By themselves they are read as the address. -/
  parse?_eq : parse? t.untilNul = some a

/-- What is read as an address names it. -/
theorem Named.of_parse? (h : parse? t = some a) : Named t a := by
  obtain ⟨-, hread⟩ := parse?_eq_some_iff_untilNul.mp h
  refine ⟨fun c hc => ?_, hread⟩
  by_contra hother
  rw [Bool.not_eq_true] at hother
  obtain ⟨hdigit, hdot, -⟩ := isTextOctet_eq_false_iff.mp hother
  -- Both readers refuse the text because of this octet.
  have hnone : (dotted? t.untilNul).or (sixteen? t.untilNul) = none := by
    rw [dotted?_eq_none hc (isDigit_eq_false hdigit) hdot, sixteen?_eq_none hc hother]
    rfl
  simp [parse?, untilNul_untilNul, hnone] at hread

theorem parse?_eq_some_iff_named :
    parse? t = some a ↔ t.length ≤ maxTextLength ∧ Named t a := by
  constructor
  · intro h
    exact ⟨(parse?_eq_some_iff_untilNul.mp h).1, .of_parse? h⟩
  · rintro ⟨hle, hnamed⟩
    exact parse?_eq_some_iff_untilNul.mpr ⟨hle, hnamed.parse?_eq⟩

/-- All octets of the text are those of an address unless there is a zero octet. -/
theorem Named.forall_isTextOctet_iff (h : Named t a) :
    (∀ c ∈ t, Address.isTextOctet c = true) ↔ 0 ∉ t := by
  constructor
  · intro hall hzero
    exact absurd (hall 0 hzero) (by decide)
  · intro hzero c hc
    -- Nothing is cut off, so that the octet is one of those that are read.
    have hself : t.untilNul = t := by
      rw [Text.untilNul, List.takeWhile_eq_self_iff]
      intro d hd
      rw [bne_iff_ne]
      rintro rfl
      exact hzero hd
    exact h.isTextOctet c (hself.symm ▸ hc)

/-! ## Accepted texts -/

/-- An address, a network and a gateway are read although the text of the address goes on behind a
zero octet. -/
theorem parse?_of_zeroOctet :
    let t := Text.ofString "192.0.2.9" ++ 0 :: Text.ofString "junk"
    parse? t = some (v4 192 0 2 9) ∧
      Cidr.parse (t ++ Text.ofString "/24") =
        .ok ⟨v4 192 0 2 9, ⟨v4 192 0 2 0, Mask.ofPrefix 24 32⟩⟩ ∧
      Gateway.parse? (Text.ofString "default via " ++ t) = some (v4 192 0 2 9) ∧
      ¬ ∀ c ∈ t, isTextOctet c = true := by
  refine ⟨rfl, rfl, rfl, fun hall => ?_⟩
  exact absurd (hall 0 (by decide)) (by decide)

/-- What is read as an address consists of hexadecimal digits, dots and colons up to its first zero
octet, and so do the address of a network and the gateway in the output of a command. They are read
from the octets before it, and there are no others just if there is no zero octet. -/
theorem parse?_octets (t : Text) :
    (∀ a, parse? t = some a ↔ t.length ≤ 45 ∧ Named t a) ∧
    (∀ a, parse? t = some a → ((∀ c ∈ t, isTextOctet c = true) ↔ 0 ∉ t)) ∧
    (∀ cidr, Cidr.parse t = .ok cidr → ∃ before after : Text,
      t = before ++ Text.ofString "/" ++ after ∧ '/'.toUInt8 ∉ before ∧
        Named before cidr.address ∧
        ((∀ c ∈ before, isTextOctet c = true) ↔ 0 ∉ before)) ∧
    ∀ a, Gateway.parse? t = some a → ∃ second third others,
      t.fields = Text.ofString "default" :: second :: third :: others ∧
        Named third a ∧ ((∀ c ∈ third, isTextOctet c = true) ↔ 0 ∉ third) := by
  refine ⟨fun a => parse?_eq_some_iff_named, fun a h => ?_, fun cidr h => ?_, fun a h => ?_⟩
  · exact (Named.of_parse? h).forall_isTextOctet_iff
  · obtain ⟨before, after, a, k, ht, hslash, hread, -, -, rfl⟩ :=
      Cidr.parse?_eq_some_iff.mp (Cidr.parse_eq_ok_iff.mp h)
    have hnamed := Named.of_parse? hread
    exact ⟨before, after, ht, hslash, hnamed, hnamed.forall_isTextOctet_iff⟩
  · obtain ⟨second, third, others, hfields, hread⟩ := Gateway.parse?_eq_some_iff.mp h
    have hnamed := Named.of_parse? hread
    exact ⟨second, third, others, hfields, hnamed, hnamed.forall_isTextOctet_iff⟩

/-- The octets of an address, of a network and of a gateway behind the zero octet that ends the
address are not those of an address. -/
theorem parse?_octets_behindZero :
    let t := Text.ofString "198.51.100.7" ++ 0 :: Text.ofString "-"
    ((∀ c ∈ t, isTextOctet c = true) ↔ 0 ∉ t) ∧
      (∃ before after : Text, t ++ Text.ofString "/8" = before ++ Text.ofString "/" ++ after ∧
        '/'.toUInt8 ∉ before ∧ Named before (v4 198 51 100 7) ∧
        ((∀ c ∈ before, isTextOctet c = true) ↔ 0 ∉ before)) ∧
      ∃ second third others, (Text.ofString "default via " ++ t).fields =
          Text.ofString "default" :: second :: third :: others ∧
        Named third (v4 198 51 100 7) ∧
        ((∀ c ∈ third, isTextOctet c = true) ↔ 0 ∉ third) := by
  intro t
  have hcidr : Cidr.parse (t ++ Text.ofString "/8") =
      .ok ⟨v4 198 51 100 7, ⟨v4 198 0 0 0, Mask.ofPrefix 8 32⟩⟩ := rfl
  refine ⟨(parse?_octets t).2.1 (v4 198 51 100 7) rfl, ?_, ?_⟩
  · exact (parse?_octets (t ++ Text.ofString "/8")).2.2.1 _ hcidr
  · exact (parse?_octets (Text.ofString "default via " ++ t)).2.2.2 (v4 198 51 100 7) rfl

end Address

end LocalNet
