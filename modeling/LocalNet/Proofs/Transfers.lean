import LocalNet.Host.File

/-!
# Whole transfers

What a reader gets of a stream and what a writer leaves in a file do not depend on how the system
schedules the requests: interruptions are repeated and short transfers are continued.

- `Stream.Answers`: what one request can answer and leave;
- `Stream.fst_drain`: a reader gets everything that remains, and the fault that stands at the end;
- `Stream.fst_fill_of_uninterrupted`: a reader of bounded size gets what it has room for, unless it
  is interrupted;
- `File.writeAll_eq`: a writer leaves the octets that fit before the fault of writing, and learns of
  that fault exactly if not all of them do.
-/

namespace LocalNet

/-- A request that may move octets moves at least one. -/
theorem Transfer.bound_pos (limit : Nat) {size : Nat} (h : 0 < size) :
    0 < Transfer.bound limit size := by
  unfold Transfer.bound
  split <;> omega

theorem Transfer.bound_le (limit size : Nat) : Transfer.bound limit size ≤ size := by
  unfold Transfer.bound
  split <;> omega

/-! ## Reading -/

namespace Stream

/-- What one request for at most `size` octets can answer, and what it leaves. -/
inductive Answers (size : Nat) (s : Stream) : Reply → Stream → Prop
  /-- An interruption was scheduled. -/
  | interrupted {s' : Stream} (hscheduled : .interrupted ∈ s.schedule) (hrest : s'.rest = s.rest)
    (hfault : s'.fault = s.fault) : Answers size s .interrupted s'
  /-- Some octets come off the front. -/
  | received {octets : Text} {s' : Stream} (hne : octets ≠ []) (hsize : octets.length ≤ size)
    (hrest : octets ++ s'.rest = s.rest) (hfault : s'.fault = s.fault)
    (hscheduled : s'.schedule = s.schedule.tail) : Answers size s (.received octets) s'
  /-- Nothing remains to be read. -/
  | ended {s' : Stream} (hrest : s.rest = []) (hfault : s.fault = none) :
    Answers size s (.received []) s'
  /-- Nothing remains to be read, and a fault stands in place of the end. -/
  | failed {number : Errno} {s' : Stream} (hrest : s.rest = []) (hfault : s.fault = some number) :
    Answers size s (.failed number) s'

/-- A delivery from a stream that differs from `s` by the event for it at most. -/
theorem answers_deliver {size : Nat} (hsize : 0 < size) (limit : Nat) {s t : Stream}
    (hrest : t.rest = s.rest) (hfault : t.fault = s.fault)
    (hscheduled : t.schedule = s.schedule.tail) :
    Answers size s (t.deliver (Transfer.bound limit size)).1
      (t.deliver (Transfer.bound limit size)).2 := by
  have hpos := Transfer.bound_pos limit hsize
  have hle := Transfer.bound_le limit size
  have hsegments := flatten_dropWhile_isEmpty t.segments
  unfold deliver
  -- Empty segments are passed over, so that only the end of the stream delivers nothing.
  cases hcut : t.segments.dropWhile (·.isEmpty) with
  | nil =>
    have hend : s.rest = [] := by
      rw [← hrest, rest, ← hsegments, hcut]
      rfl
    cases hnumber : t.fault with
    | none => exact .ended hend (hfault ▸ hnumber)
    | some number => exact .failed hend (hfault ▸ hnumber)
  | cons segment others =>
    have hne : segment ≠ [] := by
      simpa [hcut] using List.head?_dropWhile_not (·.isEmpty) t.segments
    refine .received (by simp [hne, Nat.pos_iff_ne_zero.mp hpos]) ?_ ?_ hfault hscheduled
    · exact Nat.le_trans (List.length_take_le _ _) hle
    · rw [← hrest, rest, rest, ← hsegments, hcut, List.flatten_cons, List.flatten_cons,
        ← List.append_assoc, List.take_append_drop]

theorem Answers.of_read {size : Nat} (hsize : 0 < size) {s s' : Stream} {r : Reply}
    (h : s.read size = (r, s')) : Answers size s r s' := by
  unfold read at h
  split at h
  · next later hs =>
    cases h
    exact .interrupted (hs ▸ List.mem_cons_self) rfl rfl
  · next limit later hs =>
    have hanswers := answers_deliver hsize limit (s := s) (t := { s with schedule := later }) rfl rfl
      (by rw [hs]; rfl)
    rwa [h] at hanswers
  · next hs =>
    have hanswers := answers_deliver hsize s.limit (s := s) (t := s) rfl rfl (by rw [hs]; rfl)
    rwa [h] at hanswers

/-- A reader gets everything that remains to be read, whatever the schedule. -/
theorem fst_drain {size : Nat} (hsize : 0 < size) (s : Stream) :
    (s.drain size).1 = ⟨s.rest, s.fault⟩ := by
  -- Each request keeps what it returns together with what remains.
  fun_induction drain size s with
  | case1 s s' hread ih =>
    cases Answers.of_read hsize hread with
    | interrupted _ hrest hfault => rw [ih, hrest, hfault]
  | case2 s s' number hread =>
    cases Answers.of_read hsize hread with
    | failed hrest hfault => rw [hrest, hfault]
  | case3 s s' hread =>
    cases Answers.of_read hsize hread with
    | received hne => exact absurd rfl hne
    | ended hrest hfault => rw [hrest, hfault]
  | case4 s octets s' hread hne contents s'' hdrain ih =>
    cases Answers.of_read hsize hread with
    | received _ _ hrest hfault =>
      have hcontents : contents = ⟨s'.rest, s'.fault⟩ := by
        rw [hdrain] at ih
        exact ih
      simp only [hcontents, hrest, hfault]
    | ended => exact absurd rfl hne

/-- Without an interruption a reader of bounded size gets as much as it has room for, whatever the
sizes of the transfers. A fault at the end does not take away what stands before it. -/
theorem fst_fill_of_uninterrupted (room : Nat) (s : Stream)
    (h : .interrupted ∉ s.schedule) : (s.fill room).1 = s.rest.take room := by
  fun_induction fill room s with
  | case1 s => rw [List.take_zero]
  | case2 room s hroom s' hread =>
    cases Answers.of_read (Nat.pos_of_ne_zero hroom) hread with
    | received hne => exact absurd rfl hne
    | ended hrest => rw [hrest, List.take_nil]
  | case3 room s hroom octets s' hread hne more s'' hfill ih =>
    cases Answers.of_read (Nat.pos_of_ne_zero hroom) hread with
    | received _ hlength hrest _ hscheduled =>
      -- What the request gave fits, and the other requests fill the room that is left.
      have hmore : more = s'.rest.take (room - octets.length) := by
        rw [hscheduled, hfill] at ih
        exact ih fun hmem => h (List.mem_of_mem_tail hmem)
      rw [hmore, ← hrest, List.take_append, List.take_of_length_le hlength]
    | ended => exact absurd rfl hne
  | case4 room s hroom r s' hnot hread =>
    cases Answers.of_read (Nat.pos_of_ne_zero hroom) hread with
    | interrupted hscheduled => exact absurd hscheduled h
    | received => exact absurd rfl (hnot _)
    | ended => exact absurd rfl (hnot _)
    | failed hrest => rw [hrest, List.take_nil]

end Stream

/-! ## Writing -/

namespace File

/-- The start of some octets that the file takes before the fault of writing. -/
def taken (octets : Text) (f : File) : Text :=
  match f.writeFault with
  | none => octets
  | some (capacity, _) => octets.take (capacity - f.content.length)

/-- The file with more content and another schedule of writing. -/
def grown (more : Text) (writes : List Transfer) (f : File) : File :=
  { f with content := f.content ++ more, writes }

@[simp]
theorem writeFault_grown (more : Text) (writes : List Transfer) (f : File) :
    (f.grown more writes).writeFault = f.writeFault := rfl

@[simp]
theorem grown_grown (more later : Text) (writes writes' : List Transfer) (f : File) :
    (f.grown more writes).grown later writes' = f.grown (more ++ later) writes' := by
  simp [grown]

@[simp]
theorem taken_nil (f : File) : f.taken [] = [] := by
  unfold taken
  split <;> simp

/-- What fits of some octets is the start of them. -/
theorem taken_prefix (octets : Text) (f : File) : f.taken octets <+: octets := by
  unfold taken
  split
  · exact List.prefix_refl _
  · exact List.take_prefix _ _

/-- Of the octets for an empty file all fit, or those before its fault of writing do. -/
theorem taken_cases (octets : Text) (f : File) (hempty : f.content = []) :
    f.taken octets = octets ∨ ∃ capacity number, f.writeFault = some (capacity, number) ∧
      capacity < octets.length ∧ f.taken octets = octets.take capacity := by
  cases hfault : f.writeFault with
  | none => exact .inl (by simp [taken, hfault])
  | some fault =>
    obtain ⟨capacity, number⟩ := fault
    have htaken : f.taken octets = octets.take capacity := by simp [taken, hfault, hempty]
    by_cases hshort : capacity < octets.length
    · exact .inr ⟨capacity, number, rfl, hshort, htaken⟩
    · exact .inl (by rw [htaken, List.take_of_length_le (Nat.not_lt.mp hshort)])

/-- Once the first `k` octets have been taken, what fits of the others is what is left of the
octets that fitted at first. -/
theorem taken_drop {k : Nat} {octets : Text} (hk : k ≤ octets.length) (writes : List Transfer)
    (f : File) :
    (f.grown (octets.take k) writes).taken (octets.drop k) = (f.taken octets).drop k := by
  unfold taken grown
  cases f.writeFault with
  | none => rfl
  | some fault =>
    simp only [List.length_append, List.length_take, Nat.min_eq_left hk, List.drop_take]
    congr 1
    omega

/-- What taking in octets can answer: the fault, where no octet fits before it, or a number of
octets that do fit. -/
theorem accept_cases (limit : Nat) {octets : Text} (hne : octets ≠ []) (f : File) :
    (∃ number, f.accept limit octets = (.failed number, f.grown [] f.writes) ∧
        f.taken octets = [] ∧ f.writeFault.map Prod.snd = some number) ∨
      (∃ k, 0 < k ∧ k ≤ (f.taken octets).length ∧
        f.accept limit octets = (.accepted k, f.grown (octets.take k) f.writes)) := by
  have hpos : 0 < octets.length := List.length_pos_iff.mpr hne
  have hbound := Transfer.bound_pos limit hpos
  unfold accept taken
  cases hfault : f.writeFault with
  | none =>
    right
    refine ⟨min (Transfer.bound limit octets.length) octets.length, by omega,
      Nat.min_le_right _ _, ?_⟩
    simp [append, grown, ← List.take_eq_take_min]
  | some fault =>
    obtain ⟨capacity, number⟩ := fault
    by_cases hfull : capacity ≤ f.content.length
    · left
      exact ⟨number, by simp [hfull, grown], by simp [Nat.sub_eq_zero_of_le hfull], rfl⟩
    · right
      refine ⟨min (min (Transfer.bound limit octets.length) (capacity - f.content.length))
        octets.length, by omega, by rw [List.length_take]; omega, ?_⟩
      simp [hfull, append, grown]

/-- What one request to append octets can answer, and what it leaves. -/
inductive Takes (octets : Text) (f : File) : WriteReply → File → Prop
  /-- Nothing has been written. -/
  | interrupted (writes : List Transfer) : Takes octets f .interrupted (f.grown [] writes)
  /-- No octet fits before the fault. -/
  | failed {number : Errno} (writes : List Transfer) (htaken : f.taken octets = [])
    (hfault : f.writeFault.map Prod.snd = some number) :
    Takes octets f (.failed number) (f.grown [] writes)
  /-- Some of the octets that fit have been written. -/
  | accepted {k : Nat} (writes : List Transfer) (hpos : 0 < k)
    (hle : k ≤ (f.taken octets).length) :
    Takes octets f (.accepted k) (f.grown (octets.take k) writes)

/-- Taking octets in where the file differs from `f` by the event for it at most. -/
theorem takes_accept {octets : Text} (hne : octets ≠ []) (limit : Nat) (writes : List Transfer)
    (f : File) :
    Takes octets f (accept limit octets { f with writes }).1
      (accept limit octets { f with writes }).2 := by
  rcases accept_cases limit hne { f with writes } with ⟨number, h, htaken, hfault⟩ | ⟨k, hpos, hle, h⟩
  · rw [h]
    exact .failed writes htaken hfault
  · rw [h]
    exact .accepted writes hpos hle

theorem Takes.of_write {octets : Text} (hne : octets ≠ []) {f f' : File} {r : WriteReply}
    (h : f.write octets = (r, f')) : Takes octets f r f' := by
  unfold write at h
  split at h
  · next later _ =>
    cases h
    rw [show { f with writes := later } = f.grown [] later by simp [grown]]
    exact .interrupted later
  · next limit later _ =>
    have htakes := takes_accept hne limit later f
    rwa [h] at htakes
  · have htakes := takes_accept hne f.writeLimit f.writes f
    rwa [h] at htakes

/-- A writer adds the octets that fit before the fault of writing, and learns of that fault exactly
if not all of them do. -/
theorem writeAll_eq (octets : Text) (f : File) :
    ∃ writes, f.writeAll octets =
      (if f.taken octets = octets then none else f.writeFault.map Prod.snd,
        f.grown (f.taken octets) writes) := by
  -- The file grows with every request, so that `taken` is of less and less: `taken_drop` says that
  -- what was taken and what still fits add up to what fitted at first.
  fun_induction writeAll octets f with
  | case1 f => exact ⟨f.writes, by simp [grown]⟩
  | case2 octets f hne f' hwrite ih =>
    cases Takes.of_write hne hwrite with
    | interrupted writes =>
      have htaken := taken_drop (Nat.zero_le octets.length) writes f
      simp only [List.take_zero, List.drop_zero] at htaken
      simpa only [htaken, writeFault_grown, grown_grown, List.nil_append] using ih
  | case3 octets f hne number f' hwrite =>
    cases Takes.of_write hne hwrite with
    | failed writes htaken hfault => exact ⟨writes, by simp [htaken, hfault, Ne.symm hne]⟩
  | case4 octets f hne k f' hwrite ih =>
    cases Takes.of_write hne hwrite with
    | accepted writes _ hle =>
      have hprefix := taken_prefix octets f
      have hk : k ≤ octets.length := Nat.le_trans hle hprefix.length_le
      -- The octets that fit start with the ones just written.
      have htake : (f.taken octets).take k = octets.take k := by
        rw [List.prefix_iff_eq_take.mp hprefix, List.take_take, Nat.min_eq_left hle]
      have hall : octets.take k ++ (f.taken octets).drop k = f.taken octets := by
        rw [← htake, List.take_append_drop]
      have hiff : (f.taken octets).drop k = octets.drop k ↔ f.taken octets = octets := by
        rw [← List.append_right_inj (octets.take k), hall, List.take_append_drop]
      simpa only [taken_drop hk, writeFault_grown, grown_grown, hall, hiff] using ih

end File

end LocalNet
