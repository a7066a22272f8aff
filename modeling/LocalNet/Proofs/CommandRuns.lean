import LocalNet.Host
import LocalNet.Proofs.Transfers
import Mathlib.Data.List.TakeWhile

/-!
# Runs of commands

What the caller of a run learns does not depend on how the system hands it out. The requests of a
reader end at the end of the stream or at a fault, and what their answers carry, taken together, is
all that the command had to say. Waiting is repeated after each interruption. A run that lacks a
pipe or a child has nothing to report, and an end of the pipe is closed once if there is one.

- `Stream.Session`: the requests of one reader with their answers;
- `CommandScript.ExitsWith`: the exit code in terms of how the child ends and of what waiting meets;
- `CommandScript.Splits`: a run with a pipe and a child, as the parent sees it;
- `CommandScript.Captures`: what the caller of such a run learns;
- `CommandScript.Releases`: the ends of the pipe that the parent closes;
- `Host.execute_captures`: what every run reports and closes.
-/

namespace LocalNet

/-! ## Sessions -/

namespace Stream

/-- The octets that an answer carries. -/
def Reply.octets : Reply → Text
  | .interrupted => []
  | .failed _ => []
  | .received octets => octets

/-- Requests for at most `size` octets with their answers, repeated after an interruption and made
until the end of the stream or a fault, and the stream that they leave. -/
inductive Session (size : Nat) : Stream → List Reply → Stream → Prop
  /-- Nothing is left to be read. -/
  | ended {s left : Stream} (hread : s.read size = (.received [], left)) :
    Session size s [.received []] left
  /-- The stream is broken. -/
  | failed {s left : Stream} {number : Errno} (hread : s.read size = (.failed number, left)) :
    Session size s [.failed number] left
  /-- The request is repeated. -/
  | interrupted {s s' left : Stream} {replies : List Reply}
    (hread : s.read size = (.interrupted, s')) (hlater : Session size s' replies left) :
    Session size s (.interrupted :: replies) left
  /-- Some octets arrive, and the reader asks for more. -/
  | received {s s' left : Stream} {octets : Text} {replies : List Reply}
    (hread : s.read size = (.received octets, s')) (hne : octets ≠ [])
    (hlater : Session size s' replies left) :
    Session size s (.received octets :: replies) left

/-- Reading comes to an end, whatever the schedule. -/
theorem exists_session (size : Nat) (s : Stream) :
    ∃ replies, Session size s replies (s.drain size).2 := by
  -- A session goes on as the reader does, whose requests use up the schedule and the octets.
  fun_induction drain size s with
  | case1 s s' hread ih =>
    obtain ⟨replies, hlater⟩ := ih
    exact ⟨_, .interrupted hread hlater⟩
  | case2 s s' number hread => exact ⟨_, .failed hread⟩
  | case3 s s' hread => exact ⟨_, .ended hread⟩
  | case4 s octets s' hread hne contents s'' hdrain ih =>
    obtain ⟨replies, hlater⟩ := ih
    rw [hdrain] at hlater
    exact ⟨_, .received hread hne hlater⟩

/-- The answers of a session carry all that there was to be read, in order and nothing twice. -/
theorem Session.flatMap_octets {size : Nat} (hsize : 0 < size) {s left : Stream}
    {replies : List Reply} (h : Session size s replies left) :
    replies.flatMap Reply.octets = s.rest := by
  -- Each request keeps what its answer carries together with what remains.
  induction h with
  | ended hread =>
    cases Answers.of_read hsize hread with
    | received hne => exact absurd rfl hne
    | ended hrest => exact hrest.symm
  | failed hread =>
    cases Answers.of_read hsize hread with
    | failed hrest => exact hrest.symm
  | interrupted hread _ ih =>
    cases Answers.of_read hsize hread with
    | interrupted _ hrest => rw [List.flatMap_cons, ih, Reply.octets, List.nil_append, hrest]
  | received hread hne _ ih =>
    cases Answers.of_read hsize hread with
    | received _ _ hrest => rw [List.flatMap_cons, ih, Reply.octets, hrest]
    | ended => exact absurd rfl hne

end Stream

/-! ## Exit codes -/

namespace CommandScript

/-- Waiting meets nothing but interruptions, or it meets another fault. -/
theorem waitFaults_cases (s : CommandScript) :
    (∀ number ∈ s.waitFaults, number = Errno.interrupted) ∨
      ∃ number ∈ s.waitFaults, number ≠ Errno.interrupted := by
  by_cases hfaults : ∀ number ∈ s.waitFaults, number = Errno.interrupted
  · exact .inl hfaults
  · exact .inr (by simpa using hfaults)

/-- Interruptions of waiting leave the exit code as it is. -/
theorem fst_wait_of_interrupted {s : CommandScript}
    (h : ∀ number ∈ s.waitFaults, number = Errno.interrupted) : s.wait.1 = s.ending.exitCode := by
  have hcut : s.waitFaults.dropWhile (· == Errno.interrupted) = [] :=
    List.dropWhile_eq_nil_iff.mpr fun number hmem => beq_iff_eq.mpr (h number hmem)
  rw [wait, hcut]

/-- A fault of waiting other than an interruption takes the exit code away. -/
theorem fst_wait_of_fault {s : CommandScript} {number : Errno} (hmem : number ∈ s.waitFaults)
    (hne : number ≠ Errno.interrupted) : s.wait.1 = -1 := by
  rw [wait]
  cases hcut : s.waitFaults.dropWhile (· == Errno.interrupted) with
  | nil => exact absurd (beq_iff_eq.mp (List.dropWhile_eq_nil_iff.mp hcut number hmem)) hne
  | cons _ later => rfl

/-- The exit code is zero if waiting meets nothing but interruptions and the child ends by itself
with a status whose low eight bits are zero. -/
theorem fst_wait_eq_zero_iff (s : CommandScript) :
    s.wait.1 = 0 ↔ (∀ number ∈ s.waitFaults, number = Errno.interrupted) ∧
      ∃ status, s.ending = .exited status ∧ status % 256 = 0 := by
  have hending : s.ending.exitCode = 0 ↔ ∃ status, s.ending = .exited status ∧ status % 256 = 0 := by
    cases s.ending <;> simp [Ending.exitCode]
  rcases s.waitFaults_cases with hfaults | ⟨number, hmem, hne⟩
  · rw [fst_wait_of_interrupted hfaults, hending]
    exact ⟨fun h => ⟨hfaults, h⟩, And.right⟩
  · rw [fst_wait_of_fault hmem hne]
    constructor
    · intro h
      cases h
    · rintro ⟨hfaults, -⟩
      exact absurd (hfaults number hmem) hne

/-- The exit code that a parent gets. -/
inductive ExitsWith (s : CommandScript) : Int → Prop
  /-- The child ends by itself, and the low eight bits of its status are kept. -/
  | exited {status : Int} (hfaults : ∀ number ∈ s.waitFaults, number = Errno.interrupted)
    (hending : s.ending = .exited status) : ExitsWith s (BitVec.ofInt 8 status).toNat
  /-- A signal ends the child. -/
  | killed {signal : Nat} (hfaults : ∀ number ∈ s.waitFaults, number = Errno.interrupted)
    (hending : s.ending = .killed signal) : ExitsWith s (-1)
  /-- Waiting meets a fault other than an interruption. -/
  | unknown {number : Errno} (hfault : number ∈ s.waitFaults)
    (hne : number ≠ Errno.interrupted) : ExitsWith s (-1)

/-- What waiting gives is the one exit code that there is. -/
theorem fst_wait_eq_iff {s : CommandScript} {code : Int} : s.wait.1 = code ↔ s.ExitsWith code := by
  have hstatus : ∀ status, (Ending.exited status).exitCode = (BitVec.ofInt 8 status).toNat := by
    intro status
    rw [Ending.exitCode, BitVec.toNat_ofInt]
    omega
  constructor
  · rintro rfl
    rcases s.waitFaults_cases with hfaults | ⟨number, hmem, hne⟩
    · rw [fst_wait_of_interrupted hfaults]
      cases hending : s.ending with
      | exited status =>
        rw [hstatus]
        exact .exited hfaults hending
      | killed signal => exact .killed hfaults hending
    · rw [fst_wait_of_fault hmem hne]
      exact .unknown hmem hne
  · intro h
    cases h with
    | exited hfaults hending => rw [fst_wait_of_interrupted hfaults, hending, hstatus]
    | killed hfaults hending =>
      rw [fst_wait_of_interrupted hfaults, hending]
      rfl
    | unknown hmem hne => exact fst_wait_of_fault hmem hne

/-! ## Runs -/

/-- The parent of a command gets everything that can be read, whatever the schedule, and waits. -/
theorem fst_parent (s : CommandScript) :
    s.parent.1 = .parent { launched := true, exitCode := s.wait.1, output := s.output.rest }
      [.writing, .reading] := by
  have hread := Stream.fst_drain (by decide : 0 < chunkSize) s.output
  rw [parent]
  generalize s.output.drain chunkSize = answer at hread ⊢
  obtain ⟨contents, left⟩ := answer
  obtain rfl : contents = ⟨s.output.rest, s.output.fault⟩ := hread
  rfl

/-- A run has a pipe. -/
structure HasPipe (s : CommandScript) (arguments : List Text) : Prop where
  /-- There is something to run. -/
  arguments_ne : arguments ≠ []
  /-- Making the pipe succeeds. -/
  pipeFault_eq : s.pipeFault = none

/-- A run has a pipe and a child, and the parent is the one that goes on. -/
structure Splits (s : CommandScript) (arguments : List Text) : Prop extends
    HasPipe s arguments where
  /-- Splitting the process succeeds. -/
  forkFault_eq : s.forkFault = none
  /-- The parent is the one that goes on. -/
  inChild_eq : s.inChild = false

/-- The parent closes what it opened: each end of the pipe once if there is one, and nothing
otherwise. -/
structure Releases (s : CommandScript) (arguments : List Text) (closed : List PipeEnd) : Prop where
  /-- Each end of the pipe is closed once. -/
  count_eq : s.HasPipe arguments → ∀ pipeEnd, closed.count pipeEnd = 1
  /-- Without a pipe there is nothing to close. -/
  eq_nil : ¬ s.HasPipe arguments → closed = []

/-- What the caller of a run with a child learns. -/
structure Captures (s : CommandScript) (result : CommandResult) : Prop where
  /-- There was a process. -/
  launched_eq : result.launched = true
  /-- The exit code is the one that the child leaves. -/
  exitCode_iff : ∀ code, result.exitCode = code ↔ s.ExitsWith code
  /-- The answers of the pipe come to an end. -/
  exists_session : ∃ replies left, s.output.Session chunkSize replies left
  /-- The output is what the answers of the pipe carry. -/
  output_of_session : ∀ replies left, s.output.Session chunkSize replies left →
    result.output = replies.flatMap Stream.Reply.octets
  /-- The way in which the pipe hands out its segments makes no difference. -/
  output_eq : result.output = s.output.segments.flatten

/-- Both ends are released by closing them in some order. -/
theorem releases_of_perm {s : CommandScript} {arguments : List Text} {closed : List PipeEnd}
    (hpipe : s.HasPipe arguments) (hclosed : closed.Perm [.reading, .writing]) :
    s.Releases arguments closed where
  count_eq _ pipeEnd := by
    rw [hclosed.count_eq]
    cases pipeEnd <;> rfl
  eq_nil hno := absurd hpipe hno

/-- The parent gets all that the pipe has to give and the exit code of the child. -/
theorem captures_of_rest (s : CommandScript) :
    s.Captures { launched := true, exitCode := s.wait.1, output := s.output.rest } where
  launched_eq := rfl
  exitCode_iff _ := fst_wait_eq_iff
  exists_session :=
    have ⟨replies, hsession⟩ := Stream.exists_session chunkSize s.output
    ⟨replies, _, hsession⟩
  output_of_session _ _ hsession := (hsession.flatMap_octets (by decide)).symm
  output_eq := rfl

/-- A run with a pipe and a child is the run of the parent. -/
theorem run_of_splits {s : CommandScript} {arguments : List Text} (h : s.Splits arguments)
    (hasNull : Bool) : s.run hasNull arguments = s.parent := by
  obtain ⟨file, others, rfl⟩ := List.exists_cons_of_ne_nil h.arguments_ne
  simp [run, h.pipeFault_eq, h.forkFault_eq, h.inChild_eq]

/-- A run without a pipe or without a child reports nothing. -/
theorem fst_run_of_refused {s : CommandScript} {arguments : List Text}
    (h : arguments = [] ∨ s.pipeFault ≠ none ∨ s.forkFault ≠ none) (hasNull : Bool) :
    ∃ closed, (s.run hasNull arguments).1 = .parent {} closed ∧ s.Releases arguments closed := by
  have hnothing : ¬ s.HasPipe arguments → s.Releases arguments [] := fun hno =>
    ⟨fun hpipe => absurd hpipe hno, fun _ => rfl⟩
  cases arguments with
  | nil => exact ⟨[], rfl, hnothing fun hpipe => hpipe.arguments_ne rfl⟩
  | cons file others =>
    by_cases hpipe : s.pipeFault = none
    · -- There is a pipe, so it is the child that is missing.
      have hfork : s.forkFault ≠ none := by simpa [hpipe] using h
      have hsome : s.forkFault.isSome = true := Option.isSome_iff_ne_none.mpr hfork
      refine ⟨[.reading, .writing], by simp [run, hpipe, hsome], ?_⟩
      exact releases_of_perm ⟨List.cons_ne_nil _ _, hpipe⟩ (List.Perm.refl _)
    · have hsome : s.pipeFault.isSome = true := Option.isSome_iff_ne_none.mpr hpipe
      exact ⟨[], by simp [run, hsome], hnothing fun h => hpipe h.pipeFault_eq⟩

/-- A command has no result unless there are a pipe and a child, and the parent is the one that
asks. -/
theorem result_run (s : CommandScript) (hasNull : Bool) (file : Text) (arguments : List Text) :
    (s.run hasNull (file :: arguments)).1.result =
      if s.pipeFault = none ∧ s.forkFault = none ∧ s.inChild = false then
        { launched := true, exitCode := s.wait.1, output := s.output.rest }
      else {} := by
  by_cases hrefused : s.pipeFault ≠ none ∨ s.forkFault ≠ none
  · obtain ⟨closed, hrun, -⟩ := fst_run_of_refused (.inr hrefused) hasNull
    rw [hrun, if_neg fun h => hrefused.elim (absurd h.1) (absurd h.2.1)]
    rfl
  · obtain ⟨hpipe, hfork⟩ : s.pipeFault = none ∧ s.forkFault = none := by simpa using hrefused
    by_cases hchild : s.inChild = false
    · have hrun := run_of_splits ⟨⟨List.cons_ne_nil file arguments, hpipe⟩, hfork, hchild⟩ hasNull
      rw [hrun, fst_parent, if_pos ⟨hpipe, hfork, hchild⟩]
      rfl
    · -- A child that gives up has nothing to report.
      simp [run, hpipe, hfork, hchild, Execution.result]

end CommandScript

namespace Host

/-- A run with a pipe and a child captures the whole output and the exit code, and a run that lacks
one of them reports that nothing was launched. In both cases the parent closes each end of the pipe
once if there is one. -/
theorem execute_captures (h : Host) (arguments : List Text) :
    (h.command.Splits arguments → ∃ result closed,
        (h.execute arguments).1 = .parent result closed ∧ h.command.Captures result ∧
          h.command.Releases arguments closed) ∧
      (arguments = [] ∨ h.command.pipeFault ≠ none ∨ h.command.forkFault ≠ none →
        ∃ closed, (h.execute arguments).1 =
            .parent { launched := false, exitCode := -1, output := [] } closed ∧
          h.command.Releases arguments closed) := by
  constructor
  · intro hsplits
    -- The writing end is closed before the pipe is read and the reading end after that.
    have hrun : (h.execute arguments).1 = h.command.parent.1 := by
      rw [← CommandScript.run_of_splits hsplits h.hasNull]
      rfl
    rw [CommandScript.fst_parent] at hrun
    refine ⟨_, _, hrun, h.command.captures_of_rest, ?_⟩
    exact CommandScript.releases_of_perm hsplits.toHasPipe (List.Perm.swap _ _ _)
  · intro hrefused
    exact CommandScript.fst_run_of_refused hrefused h.hasNull

/-- A command whose output arrives in pieces between interruptions, and whose exit status has more
than eight bits. -/
def interruptedCommand : Host where
  command :=
    { output :=
        { segments := [Text.ofString "defa", [], Text.ofString "ult"],
          schedule := [.interrupted, .atMost 1, .interrupted, .interrupted], limit := 2,
          fault := some 5 },
      waitFaults := [Errno.interrupted, Errno.interrupted], ending := .exited 259 }

/-- A host on which processes cannot be split. -/
def unsplit : Host where
  command := { forkFault := some 11 }

/-- All of the output is captured with the low eight bits of the status, and a process that cannot
be split closes both ends. -/
theorem execute_captures_interrupted :
    (∃ result closed,
        (interruptedCommand.execute [Text.ofString "ip"]).1 = .parent result closed ∧
          result.launched = true ∧ result.output = Text.ofString "default" ∧
          result.exitCode = 3 ∧ closed.count .reading = 1 ∧ closed.count .writing = 1) ∧
      ∃ closed, (unsplit.execute [Text.ofString "ip"]).1 =
          .parent { launched := false, exitCode := -1, output := [] } closed ∧
        closed.count .reading = 1 := by
  constructor
  · obtain ⟨result, closed, hrun, hcaptures, hreleases⟩ :=
      (execute_captures interruptedCommand [Text.ofString "ip"]).1
        { arguments_ne := List.cons_ne_nil _ _, pipeFault_eq := rfl, forkFault_eq := rfl,
          inChild_eq := rfl }
    have hcount := hreleases.count_eq ⟨List.cons_ne_nil _ _, rfl⟩
    refine ⟨result, closed, hrun, hcaptures.launched_eq, hcaptures.output_eq, ?_, hcount _,
      hcount _⟩
    have hending : interruptedCommand.command.ending = .exited 259 := rfl
    have hcode := CommandScript.ExitsWith.exited (by decide) hending
    exact (hcaptures.exitCode_iff 3).mpr hcode
  · obtain ⟨closed, hrun, hreleases⟩ :=
      (execute_captures unsplit [Text.ofString "ip"]).2 (.inr (.inr (by decide)))
    exact ⟨closed, hrun, hreleases.count_eq ⟨List.cons_ne_nil _ _, rfl⟩ _⟩

end Host

end LocalNet
