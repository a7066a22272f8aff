import LocalNet.Proofs.Endpoints

/-!
# Hosts with and without a port

A text without colons is a host, with or without brackets around it. A text with colons is the host
of an endpoint, or a host in brackets and nothing else. Some other texts pass for hosts as well:
whenever the first closing bracket is not followed by a colon, the port counts as missing, whatever
else the text holds.

- `Endpoint.HostOf`: the texts of a host;
- `Endpoint.Loose`: the other texts that pass for one;
- `Endpoint.split_eq_missingPort_iff`: the texts of which the port counts as missing;
- `Endpoint.host_of_looseText`: text behind the brackets passes for a part of the host;
- `Endpoint.host_forms`: the host of every text, and what is reported on the texts that have none.
-/

namespace LocalNet.Endpoint

/-! ## The forms -/

/-- The host is the text without the brackets around it, if there are any. -/
def Stripped (host t : Text) : Prop :=
  t = '['.toUInt8 :: host ++ [']'.toUInt8] ∨
    host = t ∧ ∀ inside, t ≠ '['.toUInt8 :: inside ++ [']'.toUInt8]

/-- The texts of a host. -/
inductive HostOf : Text → Text → Prop
  /-- Without a colon there can be no port. -/
  | colonless {host t : Text} (hcolon : ':'.toUInt8 ∉ t) (hhost : Stripped host t) : HostOf host t
  /-- The host stands in brackets, so that it may have colons. -/
  | bracketed {host : Text} (hhost : Unbracketed host) :
    HostOf host ('['.toUInt8 :: host ++ [']'.toUInt8])
  /-- The host of an endpoint. -/
  | endpoint {e : Endpoint} {t : Text} (ht : e.Written t) : HostOf e.host t

/-- Texts with a colon that pass for a host without being one. The first closing bracket does not
belong to an opening one, or does not end the host. -/
inductive Loose : Text → Prop
  /-- A second bracket is opened between the brackets around the text. -/
  | reopened {inside : Text} (hclose : ']'.toUInt8 ∉ inside) (hopen : '['.toUInt8 ∈ inside)
      (hcolon : ':'.toUInt8 ∈ inside) : Loose ('['.toUInt8 :: inside ++ [']'.toUInt8])
  /-- Text follows the closing bracket. -/
  | trailing {inside rest : Text} {c : UInt8} (hclose : ']'.toUInt8 ∉ inside)
      (hc : c ≠ ':'.toUInt8) (hcolon : ':'.toUInt8 ∈ inside ++ rest) :
    Loose ('['.toUInt8 :: inside ++ ']'.toUInt8 :: c :: rest)

variable {t host inside rest : Text} {e : Endpoint}

theorem dropBrackets_enclosed (inside : Text) :
    dropBrackets ('['.toUInt8 :: inside ++ [']'.toUInt8]) = inside := by
  rw [dropBrackets, if_pos]
  · simp
  · refine ⟨?_, rfl, ?_⟩
    · simp
    · rw [List.getLast?_concat]

/-- Brackets are dropped just if they stand around the whole text. -/
theorem dropBrackets_eq_iff : dropBrackets t = host ↔ Stripped host t := by
  by_cases hbrackets : ∃ inside, t = '['.toUInt8 :: inside ++ [']'.toUInt8]
  · obtain ⟨inside, rfl⟩ := hbrackets
    rw [dropBrackets_enclosed]
    constructor
    · rintro rfl
      exact .inl rfl
    · rintro (heq | ⟨-, hnone⟩)
      · simpa using heq
      · exact absurd rfl (hnone inside)
  · have hkeep : dropBrackets t = t := by
      rw [dropBrackets, if_neg]
      rintro ⟨hlength, hhead, hlast⟩
      obtain ⟨body, rfl⟩ := List.head?_eq_some_iff.mp hhead
      -- A closing bracket at the end is not the opening one at the start.
      have hbody : body ≠ [] := by
        rintro rfl
        simp at hlength
      rw [List.getLast?_cons_of_ne_nil hbody] at hlast
      obtain ⟨inside, rfl⟩ := List.getLast?_eq_some_iff.mp hlast
      exact hbrackets ⟨inside, rfl⟩
    rw [hkeep]
    constructor
    · rintro rfl
      exact .inr ⟨rfl, fun inside heq => hbrackets ⟨inside, heq⟩⟩
    · rintro (heq | ⟨heq, -⟩)
      · exact absurd ⟨host, heq⟩ hbrackets
      · exact heq.symm

/-! ## Missing ports -/

theorem ofParts_ne_missingPort (host port closed : Text) :
    ofParts host port closed ≠ .error .missingPort := by
  unfold ofParts
  split
  · simp
  · split <;> simp

theorem splitBracketed_eq_missingPort_iff : splitBracketed t = .error .missingPort ↔
    ∃ inside rest, t = inside ++ ']'.toUInt8 :: rest ∧ ']'.toUInt8 ∉ inside ∧
      rest.head? ≠ some ':'.toUInt8 := by
  constructor
  · -- What stands behind the first closing bracket decides: nothing, a colon or another octet.
    intro h
    unfold splitBracketed at h
    split at h
    · cases h
    · next inside hcut =>
      obtain ⟨rfl, hclose⟩ := Text.cutFirst?_eq_some_iff.mp hcut
      exact ⟨inside, [], rfl, hclose, nofun⟩
    · next inside c rest hcut =>
      obtain ⟨rfl, hclose⟩ := Text.cutFirst?_eq_some_iff.mp hcut
      split at h
      · next hc => exact ⟨inside, c :: rest, rfl, hclose, by simpa using hc⟩
      · split at h
        · cases h
        · exact absurd h (ofParts_ne_missingPort inside rest rest)
  · rintro ⟨inside, rest, rfl, hclose, hrest⟩
    rw [splitBracketed, Text.cutFirst?_append_cons hclose]
    cases rest with
    | nil => rfl
    | cons c rest =>
      have hc : c ≠ ':'.toUInt8 := by simpa using hrest
      simp only [hc, ne_eq, not_false_eq_true, if_true]

/-- The port counts as missing if there is no colon, or if brackets are closed and no colon
follows. -/
theorem split_eq_missingPort_iff : split t = .error .missingPort ↔
    ':'.toUInt8 ∉ t ∨ ':'.toUInt8 ∈ t ∧ ∃ inside rest,
      t = '['.toUInt8 :: inside ++ ']'.toUInt8 :: rest ∧ ']'.toUInt8 ∉ inside ∧
        rest.head? ≠ some ':'.toUInt8 := by
  by_cases hcolon : ':'.toUInt8 ∈ t
  · obtain ⟨before, after, hcut⟩ : ∃ before after,
        Text.cutLast? ':'.toUInt8 t = some (before, after) := by
      cases hcut : Text.cutLast? ':'.toUInt8 t with
      | none => exact absurd hcolon (Text.cutLast?_eq_none_iff.mp hcut)
      | some cut => exact ⟨cut.1, cut.2, rfl⟩
    rw [split, hcut]
    -- In spite of the colon the port can only be missing behind an opening bracket.
    by_cases hopen : t.head? = some '['.toUInt8
    · obtain ⟨body, rfl⟩ := List.head?_eq_some_iff.mp hopen
      simp only [hopen, if_true, List.tail_cons, splitBracketed_eq_missingPort_iff]
      simp [hcolon]
    · simp only [hopen, if_false]
      constructor
      · intro h
        split at h
        · cases h
        · exact absurd h (ofParts_ne_missingPort before after t)
      · rintro (hnone | ⟨-, inside, rest, rfl, -⟩)
        · exact absurd hcolon hnone
        · exact absurd rfl hopen
  · rw [split, Text.cutLast?_eq_none_iff.mpr hcolon]
    simp [hcolon]

/-! ## Hosts -/

/-- The host of a text is the one of its endpoint, or the text without the brackets around it if the
port counts as missing. -/
theorem host?_eq_ok_iff : host? t = .ok host ↔
    (∃ e : Endpoint, e.Written t ∧ e.host = host) ∨
      split t = .error .missingPort ∧ Stripped host t := by
  rw [← dropBrackets_eq_iff]
  simp only [← split_eq_ok_iff]
  unfold host?
  cases hsplit : split t with
  | ok e => simp
  | error r => cases r <;> simp

theorem Loose.colon_mem (h : Loose t) : ':'.toUInt8 ∈ t := by
  cases h with
  | reopened hclose hopen hcolon => exact List.mem_cons_of_mem _ (List.mem_append_left _ hcolon)
  | trailing hclose hc hcolon => rcases List.mem_append.mp hcolon with hmem | hmem <;> simp [hmem]

/-- The port of a text that passes for a host counts as missing. -/
theorem Loose.split_eq (h : Loose t) : split t = .error .missingPort := by
  refine split_eq_missingPort_iff.mpr (.inr ⟨h.colon_mem, ?_⟩)
  cases h with
  | reopened hclose hopen hcolon => exact ⟨_, [], rfl, hclose, nofun⟩
  | trailing hclose hc hcolon => exact ⟨_, _, rfl, hclose, by simpa using hc⟩

/-- A text that passes for a host is none of the texts of a host. -/
theorem Loose.not_hostOf (h : Loose t) : ¬ HostOf host t := by
  intro hform
  cases hform with
  | colonless hcolon _ => exact hcolon h.colon_mem
  | bracketed hhost =>
    generalize ht : '['.toUInt8 :: host ++ [']'.toUInt8] = t at h
    cases h with
    | reopened hclose hopen hcolon =>
      obtain rfl : host = _ := by simpa using ht
      exact hhost.1 hopen
    | @trailing inside rest c hclose hc hcolon =>
      -- The first closing bracket is not the last octet, so that it stands in the host.
      have hbody : host ++ [']'.toUInt8] = inside ++ ']'.toUInt8 :: c :: rest := by simpa using ht
      have hhost' : host = inside ++ ']'.toUInt8 :: (c :: rest).dropLast := by
        have hlast := congrArg List.dropLast hbody
        simpa using hlast
      refine hhost.2 ?_
      rw [hhost']
      exact List.mem_append_right inside List.mem_cons_self
  | endpoint ht =>
    have hsplit := h.split_eq
    rw [split_eq_ok_iff.mpr ht] at hsplit
    cases hsplit

/-- With the port missing, a text is one of a host or passes for one. -/
theorem hostOf_or_loose (h : split t = .error .missingPort) (hstripped : Stripped host t) :
    HostOf host t ∨ Loose t := by
  rcases split_eq_missingPort_iff.mp h with hcolon | ⟨hcolon, inside, rest, rfl, hclose, hrest⟩
  · exact .inl (.colonless hcolon hstripped)
  · have hopenNe : ':'.toUInt8 ≠ '['.toUInt8 := by decide
    have hcloseNe : ':'.toUInt8 ≠ ']'.toUInt8 := by decide
    cases rest with
    | nil =>
      -- The brackets stand around the text, and the colon between them.
      have hhost : inside = host := by
        rw [← dropBrackets_enclosed inside]
        exact dropBrackets_eq_iff.mpr hstripped
      subst hhost
      by_cases hopen : '['.toUInt8 ∈ inside
      · exact .inr (.reopened hclose hopen (by simpa [hopenNe, hcloseNe] using hcolon))
      · exact .inl (.bracketed ⟨hopen, hclose⟩)
    | cons c rest =>
      -- Text follows the first closing bracket, and the colon may stand anywhere.
      have hc : c ≠ ':'.toUInt8 := by simpa using hrest
      refine .inr (.trailing hclose hc ?_)
      simpa [hopenNe, hcloseNe, hc.symm] using hcolon

theorem HostOf.host?_eq (h : HostOf host t) : host? t = .ok host := by
  rw [host?_eq_ok_iff]
  cases h with
  | colonless hcolon hhost => exact .inr ⟨split_eq_missingPort_iff.mpr (.inl hcolon), hhost⟩
  | bracketed hhost =>
    refine .inr ⟨split_eq_missingPort_iff.mpr ?_, .inl rfl⟩
    exact (Decidable.em _).symm.imp_right fun hcolon => ⟨hcolon, _, [], rfl, hhost.2, nofun⟩
  | endpoint ht => exact .inl ⟨_, ht, rfl⟩

/-! ## Main results -/

/-- A host in brackets is followed by text that is no port, and the whole is taken for a host. -/
theorem host_of_looseText :
    let t := Text.ofString "[::1]x:53"
    host? t = .ok t ∧ ∀ host, ¬ HostOf host t := by
  have hclose : ']'.toUInt8 ∉ Text.ofString "::1" := by decide
  have hcolon : ':'.toUInt8 ∈ Text.ofString "::1" ++ Text.ofString ":53" := by decide
  have hloose : Loose (Text.ofString "[::1]x:53") :=
    .trailing hclose (by decide : 'x'.toUInt8 ≠ ':'.toUInt8) hcolon
  exact ⟨rfl, fun host => hloose.not_hostOf⟩

/-- A text has a host just if it is one of the texts of a host, apart from the texts that pass for
one: they are none, and stand for themselves without the brackets around them. Any other text is
refused with the fault of splitting it. -/
theorem host_forms (t : Text) :
    (∀ host, host? t = .ok host ↔ HostOf host t ∨ Loose t ∧ Stripped host t) ∧
    (∀ host, Loose t → ¬ HostOf host t) ∧
    ((∀ host, ¬ HostOf host t) → ¬ Loose t → ∃ r : Refusal, host? t = .error r ∧
      (parts t).fault = some
        { kind := .parse
          message := Text.ofString "address " ++ t ++ Text.ofString ": "
            ++ Text.ofString r.reason }) := by
  have hread (host : Text) : host? t = .ok host ↔ HostOf host t ∨ Loose t ∧ Stripped host t := by
    constructor
    · intro h
      rcases host?_eq_ok_iff.mp h with ⟨e, ht, rfl⟩ | ⟨hmissing, hstripped⟩
      · exact .inl (.endpoint ht)
      · exact (hostOf_or_loose hmissing hstripped).imp_right fun hloose => ⟨hloose, hstripped⟩
    · rintro (hform | ⟨hloose, hstripped⟩)
      · exact hform.host?_eq
      · exact host?_eq_ok_iff.mpr (.inr ⟨hloose.split_eq, hstripped⟩)
  refine ⟨hread, fun host h => h.not_hostOf, fun hnone hloose => ?_⟩
  cases hhost : host? t with
  | ok host =>
    rcases (hread host).mp hhost with hform | ⟨hform, -⟩
    · exact absurd hform (hnone host)
    · exact absurd hform hloose
  | error r =>
    refine ⟨r, rfl, ?_⟩
    -- The refusal is the one of splitting.
    have hsplit : split t = .error r := by
      unfold host? at hhost
      split at hhost <;> simp_all
    rw [parts, hsplit]
    rfl

end LocalNet.Endpoint
