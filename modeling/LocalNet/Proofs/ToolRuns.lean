import LocalNet.Proofs.CommandLines
import LocalNet.Tool

/-!
# Runs of a tool

A tool does what it is for if its arguments are groups of its flags, if none of them asks for help,
and if the level of the log is a known one. Otherwise it prints its usage text or nothing, and
leaves the host alone.

- `Arguments.given?`: the first value of the last group of a key;
- `Tool.Accepts`: the arguments with which a tool does what it is for;
- `Tool.run_of_accepts`, `Tool.run_of_not_accepts`: the two kinds of runs;
- `Tool.run_words`: a run with a single group.
-/

namespace LocalNet

namespace Arguments

variable {κ : Type} [DecidableEq κ] {groups : List (Group κ)} {known : Arguments κ}

/-- The values of the last group of a key. -/
def last? (groups : List (Group κ)) (key : κ) : Option (List Text) :=
  (groups.reverse.find? (·.key == key)).map Group.values

/-- The first value of the last group of a key. -/
def given? (groups : List (Group κ)) (key : κ) : Option Text :=
  (last? groups key).bind List.head?

theorem last?_eq_none_iff {key : κ} : last? groups key = none ↔ ∀ g ∈ groups, g.key ≠ key := by
  simp [last?]

/-- What is known after groups are the values of the last group of each key. -/
theorem Kept.get?_eq (h : Kept [] groups known) (key : κ) : known.get? key = last? groups key := by
  cases hlast : last? groups key with
  | none => exact h.other (last?_eq_none_iff.mp hlast)
  | some values =>
    obtain ⟨g, hfind, rfl⟩ := Option.map_eq_some_iff.mp hlast
    obtain ⟨hkey, after, before, hgroups, hafter⟩ := List.find?_eq_some_iff_append.mp hfind
    obtain rfl : g.key = key := beq_iff_eq.mp hkey
    -- Seen from the front, the groups behind the last one of the key come after it.
    have hsplit : groups = before.reverse ++ g :: after.reverse := by
      rw [← groups.reverse_reverse, hgroups]
      simp
    exact h.last hsplit fun g' hg' => by simpa using hafter g' (List.mem_reverse.mp hg')

theorem Kept.value?_eq (h : Kept [] groups known) (key : κ) :
    known.value? key = given? groups key := by
  rw [value?, h.get?_eq, given?]

theorem Kept.has_iff (h : Kept [] groups known) (key : κ) :
    known.has key = true ↔ ∃ g ∈ groups, g.key = key := by
  rw [has, h.get?_eq, Option.isSome_iff_ne_none, Ne, last?_eq_none_iff]
  simp

omit [DecidableEq κ] in
/-- The usage text ends with the line about one of the flags. -/
theorem exists_usageLine_suffix (program description : Text)
    {definitions : List (FlagDefinition κ)} (hne : definitions ≠ []) :
    ∃ d ∈ definitions, usageLine d <:+ usage program description definitions := by
  have hperm := definitions.mergeSort_perm fun a b => decide (a.flag ≤ b.flag)
  unfold usage
  generalize definitions.mergeSort (fun a b => decide (a.flag ≤ b.flag)) = sorted at hperm ⊢
  obtain ⟨front, d, rfl⟩ := List.eq_nil_or_concat sorted |>.resolve_left fun hnil =>
    hne (List.perm_nil.mp (hnil ▸ hperm).symm)
  refine ⟨d, hperm.subset (by simp), ?_⟩
  have hlines : (front.concat d).flatMap usageLine = front.flatMap usageLine ++ usageLine d := by
    simp
  simp only [hlines]
  exact (List.suffix_append _ _).trans (List.suffix_append _ _)

end Arguments

open Arguments

namespace Tool

variable {κ : Type} [DecidableEq κ]

/-- The flags of a tool are told apart. -/
structure Distinct (t : Tool κ) : Prop where
  /-- No two flags have the same key. -/
  keys : (t.definitions.map FlagDefinition.key).Nodup
  /-- No two flags are written alike. -/
  flags : (t.definitions.map FlagDefinition.flag).Nodup

/-- The arguments with which a tool does what it is for, where a log reads the names of levels. -/
structure Accepts (t : Tool κ) (levelOf : Text → Log.Level) (arguments : List Text)
    (groups : List (Arguments.Group κ)) : Prop where
  /-- The groups are those of the tool's flags. -/
  areOf : AreOf t.definitions groups
  /-- There are no other arguments. -/
  eq_words : arguments = groups.flatMap Arguments.Group.words
  /-- No required flag is missing. -/
  haveRequired : HaveRequired t.definitions groups
  /-- Nobody asks for help. -/
  noHelp : ∀ g ∈ groups, g.key ≠ t.help
  /-- The level of the log is a known one, if one is given. -/
  level : ∀ text, given? groups t.logLevel = some text →
    levelOf text ≠ .off ∨ text = Text.ofString "off"

variable {t : Tool κ} {arguments : List Text} {groups : List (Arguments.Group κ)}

/-- With accepted arguments a tool answers. Before that only the threshold of the log changes. -/
theorem run_of_accepts (ht : t.Distinct) {host : Host}
    (h : t.Accepts host.log.levelOf arguments groups) :
    ∃ (known : Arguments κ) (log : Log), Kept [] groups known ∧
      t.run arguments host = t.answer known { host with log } ∧
      (given? groups t.logLevel = none → log = host.log) := by
  have hcut := cut_nil_iff.mpr ⟨h.areOf, h.eq_words⟩
  obtain ⟨hkept, ⟨-, -, hnone⟩ | ⟨e, hrefused, -⟩⟩ := parse_of_cut ht.keys ht.flags hcut []
  · cases hparse : parse t.definitions arguments [] with
    | mk known error =>
      rw [hparse] at hkept hnone
      obtain rfl : error = none := hnone
      have hhelp : known.has t.help = false := by
        rw [Bool.eq_false_iff, Ne, hkept.has_iff]
        exact fun ⟨g, hg, hkey⟩ => h.noHelp g hg hkey
      have hlevel := hkept.value?_eq t.logLevel
      cases hgiven : given? groups t.logLevel with
      | none =>
        refine ⟨known, host.log, hkept, ?_, fun _ => rfl⟩
        simp [run, hparse, hhelp, hlevel.trans hgiven]
      | some text =>
        refine ⟨known, { host.log with threshold := host.log.levelOf text }, hkept, ?_, nofun⟩
        simp [run, hparse, hhelp, hlevel.trans hgiven, Log.setLevel_of_known (h.level text hgiven)]
  · -- Without a rest only a required flag can be missing, and none is.
    cases hrefused with
    | missingFlag hd hrequired hmissing =>
      obtain ⟨g, hg, heq⟩ := h.haveRequired _ hd hrequired
      exact absurd heq (hmissing g hg)

/-- With any other arguments a tool leaves the host alone and prints at most its usage text. -/
theorem run_of_not_accepts (ht : t.Distinct) {host : Host}
    (h : ∀ groups, ¬ t.Accepts host.log.levelOf arguments groups) :
    (t.run arguments host).2 = host ∧
      ((t.run arguments host).1.stdout = [] ∨ (t.run arguments host).1.stdout = t.usage) := by
  obtain ⟨groups, rest, hcut⟩ := exists_cut t.definitions arguments
  obtain ⟨hkept, houtcome⟩ := parse_of_cut ht.keys ht.flags hcut []
  cases hparse : parse t.definitions arguments [] with
  | mk known error =>
    rw [hparse] at hkept houtcome
    rcases houtcome with ⟨rfl, hrequired, hnone⟩ | ⟨e, -, hsome⟩
    · obtain rfl : error = none := hnone
      obtain ⟨hgroups, hwords⟩ := cut_nil_iff.mp hcut
      by_cases hhelp : known.has t.help = true
      · simp [run, hparse, hhelp]
      · -- The groups are accepted but for the level of the log.
        have hnoHelp : ∀ g ∈ groups, g.key ≠ t.help := fun g hg hkey =>
          hhelp ((hkept.has_iff t.help).mpr ⟨g, hg, hkey⟩)
        have hlevel : ¬ ∀ text, given? groups t.logLevel = some text →
            host.log.levelOf text ≠ .off ∨ text = Text.ofString "off" := fun hlevel =>
          h groups ⟨hgroups, hwords, hrequired, hnoHelp, hlevel⟩
        simp only [not_forall] at hlevel
        obtain ⟨text, hgiven, hunknown⟩ := hlevel
        have hvalue := (hkept.value?_eq t.logLevel).trans hgiven
        simp [run, hparse, hhelp, hvalue, Log.setLevel_of_unknown hunknown, ToolResult.error,
          ToolResult.failure]
    · obtain rfl : error = some e := hsome
      simp [run, hparse]

/-- A run with a single group that neither asks for help nor sets the level of the log. -/
theorem run_words (ht : t.Distinct) (hrequired : ∀ d ∈ t.definitions, d.required = false)
    {g : Arguments.Group κ} (hg : g.definition ∈ t.definitions) (hhelp : g.key ≠ t.help)
    (hlevel : g.key ≠ t.logLevel) (host : Host) :
    ∃ known : Arguments κ, Kept [] [g] known ∧ t.run g.words host = t.answer known host := by
  have hnone : given? [g] t.logLevel = none := by
    simp [given?, last?, hlevel]
  have haccepts : t.Accepts host.log.levelOf g.words [g] :=
    { areOf := List.forall_mem_singleton.mpr hg
      eq_words := by simp
      haveRequired := fun d hd hflag => absurd hflag (by simp [hrequired d hd])
      noHelp := List.forall_mem_singleton.mpr hhelp
      level := fun text htext => absurd (hnone.symm.trans htext) nofun }
  obtain ⟨known, log, hkept, hrun, hlog⟩ := run_of_accepts ht haccepts
  obtain rfl := hlog hnone
  exact ⟨known, hkept, hrun⟩

end Tool

end LocalNet
