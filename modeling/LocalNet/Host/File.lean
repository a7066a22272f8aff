import LocalNet.Host.Stream

/-!
# Files

A file is its content together with the manner in which the system serves it: the faults of opening
and closing it, and the schedules of the requests that read and write it. The schedules belong to
the file and not to one opening of it, so that what one reader leaves of them the next one meets.

`File.writeAll` replaces the content as a program does that repeats interrupted requests. Whatever
was written before a fault stays in the file.
-/

namespace LocalNet

/-- A file and the manner in which the system serves it. -/
structure File where
  /-- The content. -/
  content : Text := []
  /-- The fault of opening the file for reading. -/
  readOpenFault : Option Errno := none
  /-- The fault of opening the file for writing. -/
  writeOpenFault : Option Errno := none
  /-- What happens to the next requests that read. -/
  reads : List Transfer := []
  /-- How many octets a later one of them gives at most; 0 sets no limit. -/
  readLimit : Nat := 0
  /-- The fault that readers meet in place of the end. -/
  readFault : Option Errno := none
  /-- What happens to the next requests that write. -/
  writes : List Transfer := []
  /-- How many octets a later one of them takes at most; 0 sets no limit. -/
  writeLimit : Nat := 0
  /-- The fault of writing, and the number of octets taken before it. -/
  writeFault : Option (Nat × Errno) := none
  /-- The fault of closing the file. -/
  closeFault : Option Errno := none

namespace File

/-- The stream that a reader of the file opens. -/
def stream (f : File) : Stream where
  segments := [f.content]
  schedule := f.reads
  limit := f.readLimit
  fault := f.readFault

/-- The file after a reader has left a stream of it. -/
def afterReading (f : File) (s : Stream) : File :=
  { f with reads := s.schedule }

/-- The answer to a request that writes. -/
inductive WriteReply where
  /-- Nothing was written and the request may be repeated. -/
  | interrupted
  /-- The file takes nothing more. -/
  | failed (number : Errno)
  /-- So many octets were written. -/
  | accepted (count : Nat)
deriving DecidableEq

/-- Takes octets in. -/
def append (octets : Text) (f : File) : WriteReply × File :=
  (.accepted octets.length, { f with content := f.content ++ octets })

/-- Takes at most `limit` octets, and no more than fit before the fault of writing. -/
def accept (limit : Nat) (octets : Text) (f : File) : WriteReply × File :=
  match f.writeFault with
  | none => f.append (octets.take (Transfer.bound limit octets.length))
  | some (capacity, number) =>
    if capacity ≤ f.content.length then (.failed number, f)
    else
      f.append
        (octets.take (min (Transfer.bound limit octets.length) (capacity - f.content.length)))

/-- One request to append octets. -/
def write (octets : Text) (f : File) : WriteReply × File :=
  match f.writes with
  | .interrupted :: later => (.interrupted, { f with writes := later })
  | .atMost limit :: later => accept limit octets { f with writes := later }
  | [] => accept f.writeLimit octets f

/-- Taking octets leaves the schedule as it is. -/
theorem writes_accept (limit : Nat) (octets : Text) (f : File) :
    (f.accept limit octets).2.writes = f.writes := by
  unfold accept
  split
  · rfl
  · split <;> rfl

/-- A request takes at least one octet if it takes any. -/
theorem pos_of_accept {limit count : Nat} {octets : Text} {f f' : File} (hne : octets ≠ [])
    (h : f.accept limit octets = (.accepted count, f')) : 0 < count := by
  have hpos : 0 < octets.length := List.length_pos_iff.mpr hne
  have hbound : 0 < Transfer.bound limit octets.length := by
    unfold Transfer.bound
    split
    · exact hpos
    · omega
  unfold accept at h
  split at h
  · simp only [append, Prod.mk.injEq, WriteReply.accepted.injEq, List.length_take] at h
    omega
  · split at h
    · simp at h
    · simp only [append, Prod.mk.injEq, WriteReply.accepted.injEq, List.length_take] at h
      omega

/-- A request uses up a scheduled event or at least one octet. -/
theorem progress_of_write {octets : Text} {f f' : File} (hne : octets ≠ []) :
    (f.write octets = (.interrupted, f') → f'.writes.length < f.writes.length) ∧
      ∀ count, f.write octets = (.accepted count, f') →
        f'.writes.length + (octets.drop count).length < f.writes.length + octets.length := by
  have hpos : 0 < octets.length := List.length_pos_iff.mpr hne
  have never : ∀ limit (g : File), g.accept limit octets ≠ (.interrupted, f') := by
    intro limit g
    unfold accept
    split
    · simp [append]
    · split <;> simp [append]
  unfold write
  split
  · next later hs =>
    constructor
    · intro h; cases h; simp [hs]
    · intro count h; simp at h
  · next limit later hs =>
    refine ⟨fun h => absurd h (never _ _), fun count h => ?_⟩
    have hw := writes_accept limit octets { f with writes := later }
    have hc := pos_of_accept hne h
    rw [h] at hw
    simp only at hw
    simp only [hw, hs, List.length_cons, List.length_drop]
    omega
  · next hs =>
    refine ⟨fun h => absurd h (never _ _), fun count h => ?_⟩
    have hw := writes_accept f.writeLimit octets f
    have hc := pos_of_accept hne h
    rw [h] at hw
    simp only at hw
    simp only [hw, List.length_drop]
    omega

/-- Appends octets until all are written or the file takes nothing more. An interrupted request is
repeated. -/
def writeAll (octets : Text) (f : File) : Option Errno × File :=
  if _hne : octets = [] then (none, f)
  else
    match _h : f.write octets with
    | (.interrupted, f') => writeAll octets f'
    | (.failed number, f') => (some number, f')
    | (.accepted count, f') => writeAll (octets.drop count) f'
termination_by f.writes.length + octets.length
decreasing_by
  · have := (progress_of_write _hne).1 _h
    omega
  · exact (progress_of_write _hne).2 _ _h

end File

/-- The files of a host by their paths. -/
abbrev Files := List (Text × File)

namespace Files

/-- The file at a path. -/
def find? (files : Files) (path : Text) : Option File :=
  files.lookup path

/-- The files without the one at a path. -/
def erase (files : Files) (path : Text) : Files :=
  files.filter fun entry => entry.1 != path

/-- The files with a given one at a path. -/
def insert (files : Files) (path : Text) (file : File) : Files :=
  (path, file) :: files.erase path

end Files

end LocalNet
