import LocalNet.Endpoint
import LocalNet.Proofs.Splitting

/-!
# The two forms of an endpoint

An endpoint is written in one of two forms: a host without colons before a colon and a port, or any
host in brackets before them. Neither the host nor the port holds a bracket, and the port holds no
colon.

- `Endpoint.Written`: a text is one of the forms of an endpoint;
- `Endpoint.split_eq_ok_iff`: a text is split just if it is one of them;
- `Endpoint.parts_outcome`: what is reported on every text;
- `Endpoint.join_split_round_trip`: which endpoints are read back from their text, and which texts are
  printed again.
-/

namespace LocalNet.Endpoint

/-! ## The forms -/

/-- A text without brackets. -/
def Unbracketed (t : Text) : Prop :=
  '['.toUInt8 ∉ t ∧ ']'.toUInt8 ∉ t

/-- A text without colons and brackets. -/
def Plain (t : Text) : Prop :=
  ':'.toUInt8 ∉ t ∧ Unbracketed t

/-- The texts of an endpoint. -/
inductive Written : Endpoint → Text → Prop
  /-- The host has no colons, so that the first colon ends it. -/
  | plain {host port : Text} (hhost : Plain host) (hport : Plain port) :
    Written ⟨host, port⟩ (host ++ ':'.toUInt8 :: port)
  /-- The host stands in brackets, so that it may have colons. -/
  | bracketed {host port : Text} (hhost : Unbracketed host) (hport : Plain port) :
    Written ⟨host, port⟩ ('['.toUInt8 :: host ++ ']'.toUInt8 :: ':'.toUInt8 :: port)

variable {t host port : Text} {e : Endpoint}

theorem written_iff : e.Written t ↔
    (t = e.host ++ ':'.toUInt8 :: e.port ∧ Plain e.host ∧ Plain e.port) ∨
      (t = '['.toUInt8 :: e.host ++ ']'.toUInt8 :: ':'.toUInt8 :: e.port ∧
        Unbracketed e.host ∧ Plain e.port) := by
  constructor
  · intro h
    cases h with
    | plain hhost hport => exact .inl ⟨rfl, hhost, hport⟩
    | bracketed hhost hport => exact .inr ⟨rfl, hhost, hport⟩
  · rintro (⟨rfl, hhost, hport⟩ | ⟨rfl, hhost, hport⟩)
    · exact .plain hhost hport
    · exact .bracketed hhost hport

/-! ## Splitting -/

theorem ofParts_eq_ok_iff {closed : Text} : ofParts host port closed = .ok e ↔
    '['.toUInt8 ∉ host ∧ '['.toUInt8 ∉ port ∧ ']'.toUInt8 ∉ closed ∧ ⟨host, port⟩ = e := by
  unfold ofParts
  split
  · next hopen =>
    rw [List.contains_iff_mem, List.mem_append] at hopen
    constructor
    · intro h
      cases h
    · rintro ⟨hhost, hport, -⟩
      exact absurd hopen (not_or.mpr ⟨hhost, hport⟩)
  · next hopen =>
    rw [List.contains_iff_mem, List.mem_append, not_or] at hopen
    split <;> simp_all

/-- A text after an opening bracket is split at the first closing one, which the last colon
follows. -/
theorem splitBracketed_eq_ok_iff : splitBracketed t = .ok e ↔
    t = e.host ++ ']'.toUInt8 :: ':'.toUInt8 :: e.port ∧ Unbracketed e.host ∧ Plain e.port := by
  constructor
  · intro h
    unfold splitBracketed at h
    split at h
    · cases h
    · cases h
    · next host c port hcut =>
      obtain ⟨rfl, hclosed⟩ := Text.cutFirst?_eq_some_iff.mp hcut
      split at h
      · cases h
      · next hc =>
        split at h
        · cases h
        · next hcolon =>
          obtain ⟨hhost, hport, hclosed', rfl⟩ := ofParts_eq_ok_iff.mp h
          rw [List.contains_iff_mem] at hcolon
          rw [ne_eq, Decidable.not_not] at hc
          subst hc
          exact ⟨rfl, ⟨hhost, hclosed⟩, hcolon, hport, hclosed'⟩
  · rintro ⟨rfl, ⟨hopen, hclosed⟩, hcolon, hopen', hclosed'⟩
    rw [splitBracketed, Text.cutFirst?_append_cons hclosed]
    simp only [ne_eq, not_true_eq_false, if_false, List.contains_iff_mem, hcolon]
    exact ofParts_eq_ok_iff.mpr ⟨hopen, hopen', hclosed', rfl⟩

/-- A text is split into an endpoint if it is one of the forms of the endpoint. -/
theorem split_eq_ok_iff : split t = .ok e ↔ e.Written t := by
  rw [written_iff]
  constructor
  · intro h
    unfold split at h
    split at h
    · cases h
    · next host port hcut =>
      obtain ⟨rfl, hlast⟩ := Text.cutLast?_eq_some_iff.mp hcut
      split at h
      · -- With a bracket in front, what follows it is split at the closing one.
        next hhead =>
        obtain ⟨hbody, hhost, hport⟩ := splitBracketed_eq_ok_iff.mp h
        right
        refine ⟨?_, hhost, hport⟩
        rw [List.cons_append, ← hbody]
        exact (List.cons_head?_tail hhead).symm
      · -- Otherwise the last colon is the only one.
        split at h
        · cases h
        · next hcolon =>
          rw [List.contains_iff_mem] at hcolon
          obtain ⟨hhost, hport, hclosed, rfl⟩ := ofParts_eq_ok_iff.mp h
          rw [List.mem_append, List.mem_cons, not_or, not_or] at hclosed
          exact .inl ⟨rfl, ⟨hcolon, hhost, hclosed.1⟩, hlast, hport, hclosed.2.2⟩
  · rintro (⟨rfl, ⟨hcolon, hopen, hclosed⟩, hlast, hopen', hclosed'⟩ | ⟨rfl, hhost, hport⟩)
    · have hhead : (e.host ++ ':'.toUInt8 :: e.port).head? ≠ some '['.toUInt8 := by
        intro hhead
        -- Only the host or the colon can stand at the start.
        rcases List.mem_append.mp (List.mem_of_head? hhead) with hmem | hmem
        · exact hopen hmem
        · rcases List.mem_cons.mp hmem with heq | hmem
          · exact absurd heq (by decide)
          · exact hopen' hmem
      have hnone : ']'.toUInt8 ∉ e.host ++ ':'.toUInt8 :: e.port := by
        rw [List.mem_append, List.mem_cons, not_or, not_or]
        exact ⟨hclosed, by decide, hclosed'⟩
      rw [split, Text.cutLast?_append_cons e.host hlast]
      simp only [hhead, if_false, List.contains_iff_mem, hcolon]
      exact ofParts_eq_ok_iff.mpr ⟨hopen, hopen', hnone, rfl⟩
    · -- The colon behind the bracket is the last one, and there the first check looks.
      have hcolon := Text.cutLast?_append_cons ('['.toUInt8 :: e.host ++ [']'.toUInt8]) hport.1
      rw [List.append_assoc, List.singleton_append] at hcolon
      rw [split, hcolon]
      exact splitBracketed_eq_ok_iff.mpr ⟨rfl, hhost, hport⟩

/-! ## Reports -/

/-- The wordings of the refusals. -/
def reasons : List Text :=
  ["missing port in address", "too many colons in address", "missing ']' in address",
    "unexpected '[' in address", "unexpected ']' in address"].map Text.ofString

theorem Refusal.reason_mem_reasons (r : Refusal) : Text.ofString r.reason ∈ reasons := by
  cases r <;> simp [reasons, Refusal.reason]

theorem Refusal.reason_ne_nil (r : Refusal) : Text.ofString r.reason ≠ [] := by
  cases r <;> exact List.cons_ne_nil _ _

/-- A text has no two endpoints. -/
theorem Written.unique {e' : Endpoint} (h : e.Written t) (h' : e'.Written t) : e = e' := by
  have heq := (split_eq_ok_iff.mpr h).symm.trans (split_eq_ok_iff.mpr h')
  exact Except.ok.inj heq

/-- What is reported on a text. One of the two forms gives its only endpoint; any other text gives
neither a host nor a port, but one of five reasons and a fault that quotes it. -/
theorem parts_outcome (t : Text) :
    (∀ e : Endpoint,
      (parts t).fault = none ∧ (parts t).host = e.host ∧ (parts t).port = e.port ↔ e.Written t) ∧
    (∀ e e' : Endpoint, e.Written t → e'.Written t → e = e') ∧
    ((∀ e : Endpoint, ¬ e.Written t) →
      (parts t).host = [] ∧ (parts t).port = [] ∧
        (parts t).reason ∈ reasons ∧ (parts t).reason ≠ [] ∧
        (parts t).fault = some
          { kind := .parse
            message := Text.ofString "address " ++ t ++ Text.ofString ": " ++ (parts t).reason }) := by
  refine ⟨fun e => ?_, fun e e' h h' => h.unique h', fun hnone => ?_⟩
  · rw [← split_eq_ok_iff, parts]
    cases hsplit : split t with
    | error r => simp
    | ok found =>
      constructor
      · rintro ⟨-, hhost, hport⟩
        cases e
        cases found
        simp_all
      · intro h
        cases h
        exact ⟨rfl, rfl, rfl⟩
  · cases hsplit : split t with
    | ok found => exact absurd (split_eq_ok_iff.mp hsplit) (hnone found)
    | error r =>
      have hparts : parts t = { reason := Text.ofString r.reason, fault := some (r.fault t) } := by
        rw [parts, hsplit]
      rw [hparts]
      exact ⟨rfl, rfl, r.reason_mem_reasons, r.reason_ne_nil, rfl⟩

theorem parts_outcome_colons :
    (Endpoint.mk (Text.ofString "::1") (Text.ofString "53")).Written (Text.ofString "[::1]:53") ∧
      (parts (Text.ofString "[::1]x:53")).host = [] ∧
      (parts (Text.ofString "[::1]x:53")).reason ∈ reasons ∧
      ((parts (Text.ofString "[::1]x:53")).fault.map Fault.message) =
        some (Text.ofString "address [::1]x:53: missing port in address") := by
  obtain ⟨hforms, -, -⟩ := parts_outcome (Text.ofString "[::1]:53")
  obtain ⟨-, -, hrefused⟩ := parts_outcome (Text.ofString "[::1]x:53")
  have hnone : ∀ e : Endpoint, ¬ e.Written (Text.ofString "[::1]x:53") := by
    intro e h
    have hsplit : split (Text.ofString "[::1]x:53") = .error .missingPort := rfl
    rw [split_eq_ok_iff.mpr h] at hsplit
    cases hsplit
  obtain ⟨hhost, -, hreason, -, hfault⟩ := hrefused hnone
  refine ⟨(hforms _).mp ⟨rfl, rfl, rfl⟩, hhost, hreason, ?_⟩
  rw [hfault]
  rfl

/-! ## Joining -/

theorem join_eq (e : Endpoint) : join e =
    if ':'.toUInt8 ∈ e.host then '['.toUInt8 :: e.host ++ ']'.toUInt8 :: ':'.toUInt8 :: e.port
    else e.host ++ ':'.toUInt8 :: e.port := by
  have hopen : Text.ofString "[" = ['['.toUInt8] := rfl
  have hclose : Text.ofString "]:" = [']'.toUInt8, ':'.toUInt8] := rfl
  have hcolon : Text.ofString ":" = [':'.toUInt8] := rfl
  simp only [join, hopen, hclose, hcolon, List.contains_iff_mem]
  split <;> simp

/-- An endpoint is read back from its text if its texts could stand in one. -/
theorem split_join_iff : split (join e) = .ok e ↔ Unbracketed e.host ∧ Plain e.port := by
  rw [split_eq_ok_iff, written_iff, join_eq]
  constructor
  · rintro (⟨-, hhost, hport⟩ | ⟨-, hhost, hport⟩)
    · exact ⟨hhost.2, hport⟩
    · exact ⟨hhost, hport⟩
  · rintro ⟨hhost, hport⟩
    split
    · exact .inr ⟨rfl, hhost, hport⟩
    · next hcolon => exact .inl ⟨rfl, ⟨hcolon, hhost⟩, hport⟩

/-- Joining and splitting undo each other, but for brackets around a host without colons: these are
read and not written. -/
theorem join_split_round_trip :
    (∀ e : Endpoint, split (join e) = .ok e ↔ Unbracketed e.host ∧ Plain e.port) ∧
    (∀ (t : Text) (e : Endpoint), split t = .ok e →
      (t = Text.ofString "[" ++ e.host ++ Text.ofString "]:" ++ e.port ∧ ':'.toUInt8 ∉ e.host →
        join e = e.host ++ Text.ofString ":" ++ e.port) ∧
      (¬ (t = Text.ofString "[" ++ e.host ++ Text.ofString "]:" ++ e.port ∧ ':'.toUInt8 ∉ e.host) →
        join e = t)) := by
  refine ⟨fun e => split_join_iff, fun t e hsplit => ?_⟩
  have hbracketed : Text.ofString "[" ++ e.host ++ Text.ofString "]:" ++ e.port =
      '['.toUInt8 :: e.host ++ ']'.toUInt8 :: ':'.toUInt8 :: e.port := by
    rw [List.append_assoc]
    rfl
  have hplain : e.host ++ Text.ofString ":" ++ e.port = e.host ++ ':'.toUInt8 :: e.port := by
    rw [List.append_assoc]
    rfl
  rw [hbracketed, hplain, join_eq]
  rcases written_iff.mp (split_eq_ok_iff.mp hsplit) with ⟨ht, hhost, -⟩ | ⟨ht, -, -⟩
  · rw [if_neg hhost.1]
    exact ⟨fun _ => rfl, fun _ => ht.symm⟩
  · -- Brackets are written again just if the host needs them.
    by_cases hcolon : ':'.toUInt8 ∈ e.host
    · rw [if_pos hcolon]
      exact ⟨fun h => absurd hcolon h.2, fun _ => ht.symm⟩
    · rw [if_neg hcolon]
      exact ⟨fun _ => rfl, fun h => absurd ⟨ht, hcolon⟩ h⟩

theorem join_split_round_trip_brackets :
    let e : Endpoint := ⟨Text.ofString "a", Text.ofString "1"⟩
    split (join e) = .ok e ∧ split (Text.ofString "[a]:1") = .ok e ∧
      join e = Text.ofString "a" ++ Text.ofString ":" ++ Text.ofString "1" := by
  obtain ⟨hread, hprinted⟩ := join_split_round_trip
  have hsplit : split (Text.ofString "[a]:1") = .ok ⟨Text.ofString "a", Text.ofString "1"⟩ := rfl
  have hhost : Unbracketed (Text.ofString "a") := ⟨by decide, by decide⟩
  have hport : Plain (Text.ofString "1") := ⟨by decide, by decide, by decide⟩
  exact ⟨(hread _).mpr ⟨hhost, hport⟩, hsplit, (hprinted _ _ hsplit).1 ⟨rfl, by decide⟩⟩

end LocalNet.Endpoint
