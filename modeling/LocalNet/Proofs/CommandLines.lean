import LocalNet.Arguments
import LocalNet.Proofs.Traversals
import Mathlib.Data.List.Nodup

/-!
# Groups of a command line

A command line is accepted if it is a row of groups in which every required flag heads one. A group
is a flag followed by as many values as the flag takes, whatever they look like; so the groups in
front of a row of arguments are the same for every reader, and where they end is the first argument
that is out of place.

- `Arguments.Group`, `Arguments.Cut`: groups, and a row of arguments cut into groups and a rest that
  starts with none;
- `Arguments.Kept`: what is known after groups: the values of the last group of each key;
- `Arguments.Refused`: why a row of arguments is refused;
- `Arguments.parse_of_cut`: reading keeps the values of the groups and judges by the rest;
- `Arguments.parse_outcome`: what is accepted, what is known afterwards, and why anything else is
  refused.
-/

namespace LocalNet

/-- Every error has a text. -/
theorem ArgumentError.message_ne_nil (e : ArgumentError) : e.message ≠ [] := by
  cases e <;> exact List.append_ne_nil_of_right_ne_nil _ (by decide)

namespace Arguments

/-- A flag with the values that follow it. -/
structure Group (κ : Type) where
  /-- The definition of the flag. -/
  definition : FlagDefinition κ
  /-- The values. -/
  values : List Text
  /-- There are as many values as the flag takes. -/
  length_values : values.length = definition.arity

namespace Group

variable {κ : Type}

/-- The key of the flag. -/
def key (g : Group κ) : κ :=
  g.definition.key

/-- The arguments of a group: the flag and its values. -/
def words (g : Group κ) : List Text :=
  g.definition.flag :: g.values

end Group

variable {κ : Type}

/-- The groups belong to given definitions. -/
def AreOf (definitions : List (FlagDefinition κ)) (groups : List (Group κ)) : Prop :=
  ∀ g ∈ groups, g.definition ∈ definitions

/-- Every required flag heads a group. -/
def HaveRequired (definitions : List (FlagDefinition κ)) (groups : List (Group κ)) : Prop :=
  ∀ d ∈ definitions, d.required = true → ∃ g ∈ groups, g.definition = d

/-- Arguments are cut into groups and a rest that starts with no group. -/
structure Cut (definitions : List (FlagDefinition κ)) (arguments : List Text)
    (groups : List (Group κ)) (rest : List Text) : Prop where
  /-- The groups belong to the definitions. -/
  areOf : AreOf definitions groups
  /-- The arguments are those of the groups and the rest. -/
  eq_append : arguments = groups.flatMap Group.words ++ rest
  /-- No group starts the rest. -/
  stops : ∀ g : Group κ, g.definition ∈ definitions → ¬ g.words <+: rest

/-- Why arguments are refused that are cut into groups and a rest. -/
inductive Refused (definitions : List (FlagDefinition κ)) (groups : List (Group κ)) :
    List Text → ArgumentError → Prop
  /-- All arguments belong to groups, but a required flag heads none. -/
  | missingFlag {d : FlagDefinition κ} (hd : d ∈ definitions) (hrequired : d.required = true)
    (hnone : ∀ g ∈ groups, g.definition ≠ d) : Refused definitions groups [] (.missingFlag d.flag)
  /-- The rest starts with an argument that is no flag. -/
  | unknown {argument : Text} (others : List Text)
    (hargument : ∀ d ∈ definitions, d.flag ≠ argument) :
    Refused definitions groups (argument :: others) (.unknown argument)
  /-- The rest starts with a flag that takes more values than follow. -/
  | missingValues {d : FlagDefinition κ} {others : List Text} (hd : d ∈ definitions)
    (hothers : others.length < d.arity) :
    Refused definitions groups (d.flag :: others) (.missingValues d.arity d.flag)

variable [DecidableEq κ]

/-- What is known after groups. -/
structure Kept (known : Arguments κ) (groups : List (Group κ)) (known' : Arguments κ) : Prop where
  /-- A key that heads a group has the values of its last group. -/
  last : ∀ {before : List (Group κ)} {g : Group κ} {after : List (Group κ)},
    groups = before ++ g :: after → (∀ g' ∈ after, g'.key ≠ g.key) →
      known'.get? g.key = some g.values
  /-- Any other key has what it had before. -/
  other : ∀ {key : κ}, (∀ g ∈ groups, g.key ≠ key) → known'.get? key = known.get? key

/-! ## Cutting -/

section Cutting

variable {definitions : List (FlagDefinition κ)} {arguments rest : List Text}
  {groups : List (Group κ)}

omit [DecidableEq κ] in
/-- Arguments of groups alone are cut without a rest. -/
theorem cut_nil_iff : Cut definitions arguments groups [] ↔
    AreOf definitions groups ∧ arguments = groups.flatMap Group.words := by
  constructor
  · intro h
    exact ⟨h.areOf, by rw [h.eq_append, List.append_nil]⟩
  · rintro ⟨hgroups, rfl⟩
    refine ⟨hgroups, (List.append_nil _).symm, fun g _ hstart => ?_⟩
    exact List.cons_ne_nil _ _ (List.prefix_nil.mp hstart)

omit [DecidableEq κ] in
/-- Every row of arguments can be cut. -/
theorem exists_cut (definitions : List (FlagDefinition κ)) (arguments : List Text) :
    ∃ groups rest, Cut definitions arguments groups rest := by
  induction hlength : arguments.length using Nat.strongRecOn generalizing arguments with
  | _ length ih =>
    by_cases hstart : ∃ g : Group κ, g.definition ∈ definitions ∧ g.words <+: arguments
    · -- A group comes off, and what is left is shorter.
      obtain ⟨g, hg, left, rfl⟩ := hstart
      have hshorter : left.length < length := by
        rw [← hlength, List.length_append, Group.words, List.length_cons]
        omega
      obtain ⟨groups, rest, hgroups, rfl, hstops⟩ := ih left.length hshorter left rfl
      refine ⟨g :: groups, rest, List.forall_mem_cons.mpr ⟨hg, hgroups⟩, ?_, hstops⟩
      rw [List.flatMap_cons, List.append_assoc]
    · refine ⟨[], arguments, nofun, rfl, fun g hg hwords => hstart ⟨g, hg, hwords⟩⟩

end Cutting

/-! ## Keeping values -/

section Keeping

variable {known : Arguments κ} {groups : List (Group κ)} {key : κ}

theorem get?_set (known : Arguments κ) (key other : κ) (values : List Text) :
    (known.set key values).get? other = if other = key then some values else known.get? other := by
  by_cases h : other = key
  · subst h
    rw [if_pos rfl, get?, set, List.lookup_cons_self]
  · have hother : (other == key) = false := beq_eq_false_iff_ne.mpr h
    rw [if_neg h, get?, set, List.lookup_cons, hother]
    exact lookup_filter (fun _ => decide_eq_true h) known

/-- What is known after the values of groups have been kept one after the other. -/
def keep (known : Arguments κ) (groups : List (Group κ)) : Arguments κ :=
  groups.foldl (fun known g => known.set g.key g.values) known

theorem get?_keep_of_ne (h : ∀ g ∈ groups, g.key ≠ key) :
    (keep known groups).get? key = known.get? key := by
  induction groups generalizing known with
  | nil => rfl
  | cons g groups ih =>
    obtain ⟨hg, hgroups⟩ := List.forall_mem_cons.mp h
    rw [keep, List.foldl_cons, ← keep, ih hgroups, get?_set, if_neg hg.symm]

/-- Keeping the values of groups leaves those of the last group of each key. -/
theorem kept_keep (known : Arguments κ) (groups : List (Group κ)) :
    Kept known groups (keep known groups) := by
  constructor
  case other => exact get?_keep_of_ne
  case last =>
    rintro before g after rfl hlast
    rw [keep, List.foldl_append, List.foldl_cons, ← keep, get?_keep_of_ne hlast, get?_set,
      if_pos rfl]

end Keeping

/-! ## Reading -/

section Reading

variable {definitions : List (FlagDefinition κ)} {arguments rest : List Text}
  {groups : List (Group κ)}

omit [DecidableEq κ] in
/-- A flag has one definition. -/
theorem find?_flag (hflags : (definitions.map FlagDefinition.flag).Nodup) {d : FlagDefinition κ}
    (hd : d ∈ definitions) : definitions.find? (·.flag == d.flag) = some d := by
  cases hfind : definitions.find? (·.flag == d.flag) with
  | none => exact absurd BEq.rfl (List.find?_eq_none.mp hfind d hd)
  | some found =>
    have hflag : found.flag = d.flag := by simpa using List.find?_some hfind
    rw [List.inj_on_of_nodup_map hflags (List.mem_of_find?_eq_some hfind) hd hflag]

/-- The progress of reading after groups. -/
def Progress.add (progress : Progress κ) (groups : List (Group κ)) : Progress κ :=
  { progress with
    known := keep progress.known groups
    seen := (groups.map Group.key).reverse ++ progress.seen }

/-- A group in front is taken up. -/
theorem readGroups_words_append (hflags : (definitions.map FlagDefinition.flag).Nodup) {g : Group κ}
    (hg : g.definition ∈ definitions) (rest : List Text) (progress : Progress κ) :
    readGroups definitions (g.words ++ rest) progress =
      readGroups definitions rest (progress.add [g]) := by
  have henough : ¬ (g.values ++ rest).length < g.values.length := by
    rw [List.length_append]
    omega
  rw [Group.words, List.cons_append, readGroups]
  simp only [find?_flag hflags hg, ← g.length_values, if_neg henough, List.drop_left,
    List.take_left]
  rfl

theorem readGroups_flatMap_append (hflags : (definitions.map FlagDefinition.flag).Nodup)
    (hgroups : AreOf definitions groups) (rest : List Text) (progress : Progress κ) :
    readGroups definitions (groups.flatMap Group.words ++ rest) progress =
      readGroups definitions rest (progress.add groups) := by
  induction groups generalizing progress with
  | nil => rfl
  | cons g groups ih =>
    obtain ⟨hg, hgroups⟩ := List.forall_mem_cons.mp hgroups
    have hadd : (progress.add [g]).add groups = progress.add (g :: groups) := by
      simp [Progress.add, keep]
    rw [List.flatMap_cons, List.append_assoc, readGroups_words_append hflags hg, ih hgroups, hadd]

/-- Reading stops at a rest that starts with no group, and the refusal says why. -/
theorem exists_refused_of_stops (hrest : rest ≠ [])
    (hstops : ∀ g : Group κ, g.definition ∈ definitions → ¬ g.words <+: rest)
    (groups : List (Group κ)) (progress : Progress κ) :
    ∃ e, Refused definitions groups rest e ∧
      readGroups definitions rest progress = { progress with error := some e } := by
  obtain ⟨argument, others, rfl⟩ := List.exists_cons_of_ne_nil hrest
  cases hfind : definitions.find? (·.flag == argument) with
  | none =>
    refine ⟨_, .unknown others fun d hd hflag => ?_, by rw [readGroups, hfind]⟩
    exact List.find?_eq_none.mp hfind d hd (beq_iff_eq.mpr hflag)
  | some d =>
    have hd : d ∈ definitions := List.mem_of_find?_eq_some hfind
    obtain rfl : d.flag = argument := by simpa using List.find?_some hfind
    by_cases hothers : others.length < d.arity
    · refine ⟨_, .missingValues hd hothers, ?_⟩
      rw [readGroups, hfind]
      simp only [if_pos hothers]
    · -- With enough values behind it the flag would start a group.
      have hlength : (others.take d.arity).length = d.arity :=
        List.length_take_of_le (Nat.le_of_not_lt hothers)
      refine absurd ?_ (hstops ⟨d, others.take d.arity, hlength⟩ hd)
      exact List.cons_prefix_cons.mpr ⟨rfl, List.take_prefix d.arity others⟩

/-- The required flags are looked for among the keys of the groups. -/
theorem missing?_cases (hkeys : (definitions.map FlagDefinition.key).Nodup)
    (hgroups : AreOf definitions groups) :
    (HaveRequired definitions groups ∧ missing? definitions (groups.map Group.key).reverse = none) ∨
      ∃ e, Refused definitions groups [] e ∧
        missing? definitions (groups.map Group.key).reverse = some e := by
  have hseen {d : FlagDefinition κ} (hd : d ∈ definitions) :
      (groups.map Group.key).reverse.contains d.key = true ↔ ∃ g ∈ groups, g.definition = d := by
    rw [List.contains_iff_mem, List.mem_reverse, List.mem_map]
    constructor
    · rintro ⟨g, hg, hkey⟩
      exact ⟨g, hg, List.inj_on_of_nodup_map hkeys (hgroups g hg) hd hkey⟩
    · rintro ⟨g, hg, rfl⟩
      exact ⟨g, hg, rfl⟩
  rw [missing?]
  cases hfind : definitions.find? fun d =>
      d.required && !(groups.map Group.key).reverse.contains d.key with
  | none =>
    refine .inl ⟨fun d hd hrequired => (hseen hd).mp ?_, rfl⟩
    simpa [hrequired] using List.find?_eq_none.mp hfind d hd
  | some d =>
    have hd : d ∈ definitions := List.mem_of_find?_eq_some hfind
    have hfound := List.find?_some hfind
    obtain ⟨hrequired, hmissing⟩ := Bool.and_eq_true_iff.mp hfound
    refine .inr ⟨_, .missingFlag hd hrequired fun g hg heq => ?_, rfl⟩
    rw [(hseen hd).mpr ⟨g, hg, heq⟩] at hmissing
    cases hmissing

end Reading

/-! ## Outcome -/

section Outcome

variable {definitions : List (FlagDefinition κ)} {arguments rest : List Text}
  {groups : List (Group κ)}

/-- The outcome of reading arguments that are cut into groups and a rest. -/
theorem parse_of_cut (hkeys : (definitions.map FlagDefinition.key).Nodup)
    (hflags : (definitions.map FlagDefinition.flag).Nodup)
    (hcut : Cut definitions arguments groups rest) (known : Arguments κ) :
    Kept known groups (parse definitions arguments known).1 ∧
      ((rest = [] ∧ HaveRequired definitions groups ∧ (parse definitions arguments known).2 = none) ∨
        ∃ e, Refused definitions groups rest e ∧
          (parse definitions arguments known).2 = some e) := by
  obtain ⟨hgroups, rfl, hstops⟩ := hcut
  rw [parse, readGroups_flatMap_append hflags hgroups]
  by_cases hrest : rest = []
  · subst hrest
    rw [readGroups]
    refine ⟨kept_keep known groups, ?_⟩
    rw [Progress.add, List.append_nil, Option.none_or]
    rcases missing?_cases hkeys hgroups with ⟨hrequired, hnone⟩ | ⟨e, hrefused, hsome⟩
    · exact .inl ⟨rfl, hrequired, hnone⟩
    · exact .inr ⟨e, hrefused, hsome⟩
  · obtain ⟨e, hrefused, hread⟩ := exists_refused_of_stops hrest hstops groups
      (Progress.add { known } groups)
    rw [hread]
    exact ⟨kept_keep known groups, .inr ⟨e, hrefused, rfl⟩⟩

/-- Arguments are accepted exactly if they are a row of groups in which every required flag heads
one. In any case they can be cut into groups and a rest, and then the values of the groups are kept,
and a refusal says what is wrong behind the groups. -/
theorem parse_outcome (hkeys : (definitions.map FlagDefinition.key).Nodup)
    (hflags : (definitions.map FlagDefinition.flag).Nodup) (arguments : List Text)
    (known : Arguments κ) :
    ((parse definitions arguments known).2 = none ↔ ∃ groups, AreOf definitions groups ∧
        arguments = groups.flatMap Group.words ∧ HaveRequired definitions groups) ∧
      (∃ groups rest, Cut definitions arguments groups rest) ∧
      ∀ groups rest, Cut definitions arguments groups rest →
        Kept known groups (parse definitions arguments known).1 ∧
        ∀ e, (parse definitions arguments known).2 = some e →
          Refused definitions groups rest e ∧ e.message ≠ [] := by
  refine ⟨?_, exists_cut definitions arguments, fun groups rest hcut => ?_⟩
  · constructor
    · intro haccepted
      obtain ⟨groups, rest, hcut⟩ := exists_cut definitions arguments
      obtain ⟨-, ⟨rfl, hrequired, -⟩ | ⟨e, -, hsome⟩⟩ := parse_of_cut hkeys hflags hcut known
      · obtain ⟨hgroups, harguments⟩ := cut_nil_iff.mp hcut
        exact ⟨groups, hgroups, harguments, hrequired⟩
      · rw [haccepted] at hsome
        cases hsome
    · rintro ⟨groups, hgroups, harguments, hrequired⟩
      have hcut := cut_nil_iff.mpr ⟨hgroups, harguments⟩
      obtain ⟨-, ⟨-, -, haccepted⟩ | ⟨e, hrefused, -⟩⟩ := parse_of_cut hkeys hflags hcut known
      · exact haccepted
      · -- Without a rest only a required flag can be missing, and none is.
        cases hrefused with
        | missingFlag hd hflag hnone =>
          obtain ⟨g, hg, heq⟩ := hrequired _ hd hflag
          exact absurd heq (hnone g hg)
  · obtain ⟨hkept, ⟨-, -, haccepted⟩ | ⟨e, hrefused, hsome⟩⟩ := parse_of_cut hkeys hflags hcut known
    · refine ⟨hkept, fun e he => ?_⟩
      rw [haccepted] at he
      cases he
    · refine ⟨hkept, fun e' he => ?_⟩
      rw [hsome, Option.some.injEq] at he
      subst he
      exact ⟨hrefused, e.message_ne_nil⟩

end Outcome

/-- A flag that has to be given with a port, and a flag without values. -/
def portAndFormat : List (FlagDefinition Nat) :=
  [{ key := 0, flag := Text.ofString "--port", arity := 1, required := true },
    { key := 1, flag := Text.ofString "--json" }]

/-- A value that looks like a flag is a value. -/
theorem parse_outcome_flagAsValue :
    (portAndFormat.map FlagDefinition.key).Nodup ∧ (portAndFormat.map FlagDefinition.flag).Nodup ∧
      let json := Text.ofString "--json"
      let answer := parse portAndFormat [json, Text.ofString "--port", json] [(1, [json]), (2, [])]
      answer.2 = none ∧ answer.1.get? 0 = some [json] ∧ answer.1.get? 1 = some [] ∧
        answer.1.get? 2 = some [] := by
  have hkeys : (portAndFormat.map FlagDefinition.key).Nodup := by decide
  have hflags : (portAndFormat.map FlagDefinition.flag).Nodup := by decide
  obtain ⟨haccepted, -, hcut⟩ := parse_outcome hkeys hflags
    [Text.ofString "--json", Text.ofString "--port", Text.ofString "--json"]
    [(1, [Text.ofString "--json"]), (2, [])]
  let format : Group Nat := ⟨{ key := 1, flag := Text.ofString "--json" }, [], rfl⟩
  let port : Group Nat :=
    ⟨{ key := 0, flag := Text.ofString "--port", arity := 1, required := true },
      [Text.ofString "--json"], rfl⟩
  have hgroups : AreOf portAndFormat [format, port] := by
    simp [AreOf, portAndFormat, format, port]
  have hrequired : HaveRequired portAndFormat [format, port] := by
    simp [HaveRequired, portAndFormat, format, port]
  obtain ⟨hkept, -⟩ := hcut [format, port] [] (cut_nil_iff.mpr ⟨hgroups, rfl⟩)
  refine ⟨hkeys, hflags, haccepted.mpr ⟨[format, port], hgroups, rfl, hrequired⟩, ?_, ?_, ?_⟩
  · exact hkept.last (show [format, port] = [format] ++ port :: [] from rfl) nofun
  · exact hkept.last (show [format, port] = [] ++ format :: [port] from rfl)
      (by simp [format, port, Group.key])
  · exact hkept.other (by simp [format, port, Group.key])

end Arguments

end LocalNet
