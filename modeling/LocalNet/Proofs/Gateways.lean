import LocalNet.Gateway
import LocalNet.Proofs.CommandRuns

/-!
# Reported gateways

When the running system reports a default gateway. The routing command has to be started, to end
with exit code zero and to print a line in which the gateway stands third. How its output arrives
makes no difference, and neither does a fault that ends the reading: what was read before it counts
as all that the command had to say. So a gateway may be reported from a part of the output, and may
be another one than the command printed.

- `Gateway.Shown`, `Gateway.Complete`: a gateway in what was read of a command that ended well, and
  one for which this is the whole output;
- `Gateway.lookup_of_brokenOutput`: a gateway is reported although reading failed;
- `Gateway.lookup_shown_complete`: what is reported is what is shown, and it is complete unless
  reading failed.
-/

namespace LocalNet

namespace Gateway

/-! ## Gateways in an output -/

/-- The gateway is the third field behind the word `default`. -/
theorem parse?_eq_some_iff {output : Text} {a : Address} : parse? output = some a ↔
    ∃ second third others, output.fields = Text.ofString "default" :: second :: third :: others ∧
      Address.parse? third = some a := by
  rw [parse?]
  split
  · next first second third others hfields =>
    rw [hfields]
    constructor
    · intro h
      obtain ⟨hfirst, hread⟩ := Option.ite_none_right_eq_some.mp h
      exact ⟨second, third, others, by rw [hfirst], hread⟩
    · rintro ⟨second, third, others, heq, hread⟩
      simp only [List.cons.injEq] at heq
      obtain ⟨hfirst, -, hthird, -⟩ := heq
      rw [if_pos hfirst, hthird, hread]
  · next hfields =>
    constructor
    · intro h
      cases h
    · rintro ⟨second, third, others, heq, -⟩
      exact absurd heq (hfields _ _ _ _)

/-- A gateway in what was read of a command that ended well. -/
structure Shown (s : CommandScript) (a : Address) : Prop where
  /-- There is a pipe. -/
  pipeFault_eq : s.pipeFault = none
  /-- There is a child. -/
  forkFault_eq : s.forkFault = none
  /-- The parent is the one that asks. -/
  inChild_eq : s.inChild = false
  /-- Waiting meets nothing but interruptions. -/
  waitFaults_eq : ∀ number ∈ s.waitFaults, number = Errno.interrupted
  /-- The child ends by itself with exit code zero. -/
  ending_eq : ∃ status, s.ending = .exited status ∧ status % 256 = 0
  /-- The first field that was read is `default` and the third is the gateway. -/
  fields_eq : ∃ second third others,
    s.output.rest.fields = Text.ofString "default" :: second :: third :: others ∧
      Address.parse? third = some a

/-- A gateway in the whole output of a command that ended well. -/
structure Complete (s : CommandScript) (a : Address) : Prop extends Shown s a where
  /-- The output was read to its end. -/
  fault_eq : s.output.fault = none

/-- The running system reports the gateway that is shown. -/
theorem lookup_eq_some_iff {command name : Text} {h : Host} {a : Address} :
    (lookup Runner.system command name h).1 = some a ↔ Shown h.command a := by
  have hrun : (lookup Runner.system command name h).1 =
      ofResult? (h.command.run h.hasNull (query command name)).1.result := rfl
  rw [hrun, query, CommandScript.result_run]
  constructor
  · intro hsome
    split at hsome
    · next hlaunched =>
      obtain ⟨hpipe, hfork, hchild⟩ := hlaunched
      obtain ⟨hcode, hparse⟩ := Option.ite_none_right_eq_some.mp hsome
      have hzero : h.command.wait.1 = 0 := by simpa using hcode
      obtain ⟨hwait, hending⟩ := h.command.fst_wait_eq_zero_iff.mp hzero
      exact ⟨hpipe, hfork, hchild, hwait, hending, parse?_eq_some_iff.mp hparse⟩
    · -- Nothing was launched.
      cases hsome
  · intro hshown
    have hzero := h.command.fst_wait_eq_zero_iff.mpr ⟨hshown.waitFaults_eq, hshown.ending_eq⟩
    rw [if_pos ⟨hshown.pipeFault_eq, hshown.forkFault_eq, hshown.inChild_eq⟩, hzero]
    exact parse?_eq_some_iff.mpr hshown.fields_eq

/-- A command of which reading fails in the middle of the gateway. -/
def brokenOutput : Host where
  command :=
    { output := { segments := [Text.ofString "default via 192.0.2.1"], fault := some 5 } }

/-- The part of a gateway that was read before the fault is reported as a gateway. -/
theorem lookup_of_brokenOutput :
    (lookup Runner.system defaultCommand (Text.ofString "eth0") brokenOutput).1 =
        some (Address.v4 192 0 2 1) ∧
      brokenOutput.command.output.fault = some 5 ∧
      ¬ Complete brokenOutput.command (Address.v4 192 0 2 1) := by
  refine ⟨lookup_eq_some_iff.mpr ?_, rfl, fun hcomplete => ?_⟩
  · refine ⟨rfl, rfl, rfl, nofun, ⟨0, rfl, rfl⟩, ?_⟩
    exact ⟨Text.ofString "via", Text.ofString "192.0.2.1", [], rfl, rfl⟩
  · exact absurd hcomplete.fault_eq (by decide)

/-- The running system reports a gateway exactly if it is shown in what was read of a command that
ended well. What is reported comes from the whole output unless reading failed. -/
theorem lookup_shown_complete (command name : Text) (h : Host) (a : Address) :
    ((lookup Runner.system command name h).1 = some a ↔ Shown h.command a) ∧
      (Complete h.command a ↔
        (lookup Runner.system command name h).1 = some a ∧ h.command.output.fault = none) := by
  refine ⟨lookup_eq_some_iff, ?_⟩
  rw [lookup_eq_some_iff]
  constructor
  · intro hcomplete
    exact ⟨hcomplete.toShown, hcomplete.fault_eq⟩
  · rintro ⟨hshown, hfault⟩
    exact ⟨hshown, hfault⟩

end Gateway

end LocalNet
