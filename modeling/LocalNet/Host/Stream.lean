import LocalNet.Fault.Errno

/-!
# Streams

A stream is the content of an open file or the output of a command, together with the manner in
which the system hands it out: which requests it interrupts, how many octets it gives at once, and
whether it ends with a fault. Every request either uses up a scheduled event or hands out octets, so
reading ends.

- `Stream.read`: one request;
- `Stream.drain`: requests until the end, repeated after an interruption;
- `Stream.fill`: requests until the end or until there is no room, given up at any failure.
-/

namespace LocalNet

/-- A scheduled event of a transfer. -/
inductive Transfer where
  /-- The request is interrupted. -/
  | interrupted
  /-- The request moves at most so many octets; 0 sets no limit. -/
  | atMost (limit : Nat)
deriving DecidableEq

/-- The number of octets that one request for `size` octets moves at most. -/
def Transfer.bound (limit size : Nat) : Nat :=
  if limit = 0 then size else min limit size

/-- An open source of octets. -/
structure Stream where
  /-- What remains to be read. One request never spans two segments. -/
  segments : List Text := []
  /-- What happens to the next requests. -/
  schedule : List Transfer := []
  /-- How many octets a request moves at most after the schedule; 0 sets no limit. -/
  limit : Nat := 0
  /-- The fault that stands in place of the end. -/
  fault : Option Errno := none

namespace Stream

/-- The answer to a request. -/
inductive Reply where
  /-- Nothing was read and the request may be repeated. -/
  | interrupted
  /-- The stream is broken. -/
  | failed (number : Errno)
  /-- Some octets, or none at the end of the stream. -/
  | received (octets : Text)
deriving DecidableEq

/-- Everything that remains to be read. -/
def rest (s : Stream) : Text :=
  s.segments.flatten

/-- Hands out at most `count` octets of the first segment that has any. -/
def deliver (count : Nat) (s : Stream) : Reply × Stream :=
  match s.segments.dropWhile (·.isEmpty) with
  | segment :: others =>
    (.received (segment.take count), { s with segments := segment.drop count :: others })
  | [] =>
    match s.fault with
    | some number => (.failed number, { s with segments := [] })
    | none => (.received [], { s with segments := [] })

/-- One request for at most `size` octets. -/
def read (size : Nat) (s : Stream) : Reply × Stream :=
  match s.schedule with
  | .interrupted :: later => (.interrupted, { s with schedule := later })
  | .atMost limit :: later => deliver (Transfer.bound limit size) { s with schedule := later }
  | [] => deliver (Transfer.bound s.limit size) s

/-- A bound on the number of requests that can still give something. -/
def work (s : Stream) : Nat :=
  s.schedule.length + s.rest.length

/-- Leaving out empty segments leaves out nothing that remains to be read. -/
theorem flatten_dropWhile_isEmpty (segments : List Text) :
    (segments.dropWhile (·.isEmpty)).flatten = segments.flatten := by
  induction segments with
  | nil => rfl
  | cons segment others ih => cases segment <;> simp [ih]

/-- What a delivery gives and what it leaves make up what there was. -/
theorem append_rest_of_deliver {count : Nat} {s s' : Stream} {octets : Text}
    (h : s.deliver count = (.received octets, s')) : octets ++ s'.rest = s.rest := by
  have hrest := flatten_dropWhile_isEmpty s.segments
  unfold deliver at h
  split at h
  · next segment others hcut =>
    simp only [Prod.mk.injEq, Reply.received.injEq] at h
    obtain ⟨rfl, rfl⟩ := h
    rw [hcut] at hrest
    simp only [rest, ← hrest, List.flatten_cons, ← List.append_assoc, List.take_append_drop]
  · next hcut =>
    rw [hcut] at hrest
    split at h
    · simp at h
    · simp only [Prod.mk.injEq, Reply.received.injEq] at h
      obtain ⟨rfl, rfl⟩ := h
      simpa [rest] using hrest

/-- A delivery leaves the schedule as it is. -/
theorem schedule_of_deliver {count : Nat} {s s' : Stream} {r : Reply}
    (h : s.deliver count = (r, s')) : s'.schedule = s.schedule := by
  unfold deliver at h
  split at h
  · cases h; rfl
  · split at h <;> · cases h; rfl

/-- An interruption uses up a scheduled event. -/
theorem work_of_interrupted {size : Nat} {s s' : Stream} (h : s.read size = (.interrupted, s')) :
    s'.work < s.work := by
  have never : ∀ count (t : Stream), t.deliver count ≠ (.interrupted, s') := by
    intro count t
    unfold deliver
    split
    · simp
    · split <;> simp
  unfold read at h
  split at h
  · next later hs =>
    cases h
    simp [work, rest, hs]
  · exact absurd h (never _ _)
  · exact absurd h (never _ _)

/-- A request that gives octets leaves fewer to be read. -/
theorem work_of_received {size : Nat} {s s' : Stream} {octets : Text}
    (h : s.read size = (.received octets, s')) (hne : octets ≠ []) : s'.work < s.work := by
  have hpos : 0 < octets.length := List.length_pos_iff.mpr hne
  unfold read at h
  split at h
  · simp at h
  · next limit later hs =>
    have hl := congrArg List.length (append_rest_of_deliver h)
    have hq := schedule_of_deliver h
    simp only [List.length_append, rest] at hl
    simp only [work, rest, hq, hs, List.length_cons]
    omega
  · next hs =>
    have hl := congrArg List.length (append_rest_of_deliver h)
    have hq := schedule_of_deliver h
    simp only [List.length_append, rest] at hl
    simp only [work, rest, hq]
    omega

/-- What has been read of a stream, and the fault that ended the reading, if one did. -/
structure Contents where
  /-- The octets. -/
  text : Text
  /-- Why reading ended before the end of the stream. -/
  fault : Option Errno := none
deriving DecidableEq

/-- Reads until the end of the stream or a fault, `size` octets at once. An interrupted request is
repeated. -/
def drain (size : Nat) (s : Stream) : Contents × Stream :=
  match _h : s.read size with
  | (.interrupted, s') => drain size s'
  | (.failed number, s') => (⟨[], some number⟩, s')
  | (.received octets, s') =>
    if _hne : octets = [] then (⟨[], none⟩, s')
    else
      let (contents, s'') := drain size s'
      (⟨octets ++ contents.text, contents.fault⟩, s'')
termination_by s.work
decreasing_by
  · exact work_of_interrupted _h
  · exact work_of_received _h _hne

/-- Reads until the end of the stream or until there are `room` octets. A request that is
interrupted or fails ends the reading as well. -/
def fill (room : Nat) (s : Stream) : Text × Stream :=
  if room = 0 then ([], s)
  else
    match _h : s.read room with
    | (.received octets, s') =>
      if _hne : octets = [] then ([], s')
      else
        let (more, s'') := fill (room - octets.length) s'
        (octets ++ more, s'')
    | (_, s') => ([], s')
termination_by s.work
decreasing_by exact work_of_received _h _hne

end Stream

end LocalNet
