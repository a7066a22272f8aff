import LocalNet.Proofs.CommandRuns
import LocalNet.Proofs.LeadingNumerals
import LocalNet.Proofs.Storage

/-!
# Readers of bounded size

A reader with room for some octets asks until there is no room left, until the end of the stream, or
until a request fails. It does not tell the last two apart: what came before a failure is taken for
the whole content, so that the start of a value can pass for the value.

- `Stream.Fills`: the requests of such a reader with their answers;
- `Host.Fetches`: what the reader of a file gets, and whether a request failed;
- `Host.readInto_fetched`: what is in the buffer then, and when it counts as empty;
- `Host.readInt32_of_brokenFile`: an integer that is decoded after a failure.
-/

namespace LocalNet

namespace Stream

/-- A request leaves the events that are scheduled after it. -/
theorem schedule_read {size : Nat} {s s' : Stream} {reply : Reply}
    (h : s.read size = (reply, s')) : s'.schedule = s.schedule.tail := by
  unfold read at h
  split at h
  · next hs =>
    cases h
    rw [hs, List.tail_cons]
  · next hs => rw [schedule_of_deliver h, hs, List.tail_cons]
  · next hs => rw [schedule_of_deliver h, hs, List.tail_nil]

/-- The answer reports a failure. -/
def Reply.IsFailure : Reply → Prop
  | .interrupted => True
  | .failed _ => True
  | .received _ => False

/-- A failure carries no octets. -/
theorem Reply.IsFailure.octets_eq {reply : Reply} (h : reply.IsFailure) : reply.octets = [] := by
  cases reply with
  | interrupted => rfl
  | failed number => rfl
  | received octets => exact h.elim

/-- The requests of a reader with room for so many octets with their answers, and the stream that
they leave. No request is made without room, or after the end of the stream or a failure. -/
inductive Fills : Nat → Stream → List Reply → Stream → Prop
  /-- There is no room left. -/
  | full {s : Stream} : Fills 0 s [] s
  /-- Nothing is left to be read. -/
  | ended {room : Nat} {s left : Stream} (hroom : 0 < room)
    (hread : s.read room = (.received [], left)) : Fills room s [.received []] left
  /-- The request fails, or it is interrupted. -/
  | failed {room : Nat} {s left : Stream} {reply : Reply} (hroom : 0 < room)
    (hread : s.read room = (reply, left)) (hfailure : reply.IsFailure) : Fills room s [reply] left
  /-- Some octets arrive, and the reader asks for as many as there is room for behind them. -/
  | received {room : Nat} {s s' left : Stream} {octets : Text} {replies : List Reply}
    (hroom : 0 < room) (hread : s.read room = (.received octets, s')) (hne : octets ≠ [])
    (hlater : Fills (room - octets.length) s' replies left) :
    Fills room s (.received octets :: replies) left

/-- A reader comes to an end, whatever the schedule. -/
theorem exists_fills (room : Nat) (s : Stream) :
    ∃ replies, Fills room s replies (s.fill room).2 := by
  fun_induction fill room s with
  | case1 s => exact ⟨_, .full⟩
  | case2 room s hroom s' hread => exact ⟨_, .ended (Nat.pos_of_ne_zero hroom) hread⟩
  | case3 room s hroom octets s' hread hne more s'' hfill ih =>
    obtain ⟨replies, hlater⟩ := ih
    rw [hfill] at hlater
    exact ⟨_, .received (Nat.pos_of_ne_zero hroom) hread hne hlater⟩
  | case4 room s hroom reply s' hnot hread =>
    refine ⟨_, .failed (Nat.pos_of_ne_zero hroom) hread ?_⟩
    cases reply with
    | interrupted => trivial
    | failed number => trivial
    | received octets => exact absurd rfl (hnot octets)

/-- A reader has what the answers carry. A failure adds nothing and takes nothing away. -/
theorem Fills.fill_eq {room : Nat} {s left : Stream} {replies : List Reply}
    (h : Fills room s replies left) : s.fill room = (replies.flatMap Reply.octets, left) := by
  -- The first request of the reader is the one of the case, which leaves one branch of the reader.
  induction h with
  | full =>
    rw [fill, if_pos rfl]
    rfl
  | ended hroom hread =>
    rw [fill, if_neg (Nat.pos_iff_ne_zero.mp hroom)]
    split
    · next hread' =>
      cases hread.symm.trans hread'
      rfl
    · next hnot hread' =>
      cases hread.symm.trans hread'
      exact absurd rfl (hnot [])
  | failed hroom hread hfailure =>
    rw [fill, if_neg (Nat.pos_iff_ne_zero.mp hroom)]
    split
    · next hread' =>
      cases hread.symm.trans hread'
      exact hfailure.elim
    · next hread' =>
      cases hread.symm.trans hread'
      rw [List.flatMap_singleton, hfailure.octets_eq]
  | received hroom hread hne hlater ih =>
    rw [fill, if_neg (Nat.pos_iff_ne_zero.mp hroom)]
    split
    · next hread' =>
      cases hread.symm.trans hread'
      rw [dif_neg hne, ih]
      rfl
    · next hnot hread' =>
      cases hread.symm.trans hread'
      exact absurd rfl (hnot _)

/-- What the answers carry is the start of what remained to be read. -/
theorem Fills.isPrefix {room : Nat} {s left : Stream} {replies : List Reply}
    (h : Fills room s replies left) : replies.flatMap Reply.octets <+: s.rest := by
  induction h with
  | full => exact List.nil_prefix
  | ended => exact List.nil_prefix
  | failed hroom hread hfailure =>
    rw [List.flatMap_singleton, hfailure.octets_eq]
    exact List.nil_prefix
  | received hroom hread hne hlater ih =>
    cases Answers.of_read hroom hread with
    | received _ _ hrest =>
      -- What was handed out stands before what is left, and the later answers go on there.
      rw [List.flatMap_cons, Reply.octets, ← hrest]
      exact (List.prefix_append_right_inj _).mpr ih
    | ended => exact absurd rfl hne

/-- A reader leaves no other events than were scheduled. -/
theorem Fills.schedule_subset {room : Nat} {s left : Stream} {replies : List Reply}
    (h : Fills room s replies left) : left.schedule ⊆ s.schedule := by
  -- A request uses up the first event at most.
  have hread : ∀ {size : Nat} {s s' : Stream} {reply : Reply}, s.read size = (reply, s') →
      s'.schedule ⊆ s.schedule := by
    intro size s s' reply h
    rw [schedule_read h]
    exact (List.tail_suffix _).subset
  induction h with
  | full => exact List.Subset.refl _
  | ended _ h => exact hread h
  | failed _ h => exact hread h
  | received _ h _ _ ih => exact List.Subset.trans ih (hread h)

end Stream

/-! ## Blanks at the end -/

namespace Text

theorem stripEnd_eq_nil_iff {t : Text} : t.stripEnd = [] ↔ t.all isTrailingBlank = true :=
  List.rdropWhile_eq_nil_iff.trans List.all_eq_true.symm

/-- The octets up to the first zero octet of a buffer are those of the text that was stripped. -/
theorem untilNul_zeroEnd_append (t rest : Text) :
    untilNul (t.zeroEnd ++ 0 :: rest) = t.stripEnd.untilNul := by
  have hzeros : ∀ n : Nat, untilNul (List.replicate n 0 ++ 0 :: rest) = [] := by
    intro n
    cases n <;> rfl
  rw [zeroEnd, List.append_assoc, untilNul, List.takeWhile_append]
  -- A text without a zero octet is followed by the zeros that took the place of its blanks.
  split
  · next hlength =>
    rw [show List.takeWhile _ _ = _ from hzeros _, List.append_nil, untilNul,
      (List.takeWhile_prefix _).eq_of_length hlength]
  · rfl

end Text

/-! ## Files -/

namespace Host

/-- What a reader with room for so many octets gets of a file, and whether the file could not be
opened or a request that reads failed. -/
inductive Fetches (path : Text) (room : Nat) (h : Host) : Text → Bool → Prop
  /-- The file cannot be opened. -/
  | refused {number : Errno} (hopen : h.openForReading path = .error number) :
    Fetches path room h [] true
  /-- A request fails, and the reader has what came before. -/
  | broken {file : File} {replies : List Stream.Reply} {left : Stream}
    (hopen : h.openForReading path = .ok file)
    (hfills : Stream.Fills room file.stream replies left)
    (hfailure : ∃ reply ∈ replies, reply.IsFailure) :
    Fetches path room h (replies.flatMap Stream.Reply.octets) true
  /-- The reader comes to the end of the file or has no room left. -/
  | whole {file : File} {replies : List Stream.Reply} {left : Stream}
    (hopen : h.openForReading path = .ok file)
    (hfills : Stream.Fills room file.stream replies left)
    (hnone : ∀ reply ∈ replies, ¬ reply.IsFailure) :
    Fetches path room h (replies.flatMap Stream.Reply.octets) false

theorem exists_fetches (path : Text) (room : Nat) (h : Host) :
    ∃ text failed, h.Fetches path room text failed := by
  cases hopen : h.openForReading path with
  | error number => exact ⟨_, _, .refused hopen⟩
  | ok file =>
    obtain ⟨replies, hfills⟩ := Stream.exists_fills room file.stream
    by_cases hfailure : ∃ reply ∈ replies, reply.IsFailure
    · exact ⟨_, _, .broken hopen hfills hfailure⟩
    · exact ⟨_, _, .whole hopen hfills (by simpa using hfailure)⟩

/-- Failures make no difference to what is read. -/
theorem Fetches.fst_readStart {path : Text} {room : Nat} {h : Host} {text : Text} {failed : Bool}
    (hfetches : h.Fetches path room text failed) : (h.readStart (some path) room).1 = text := by
  cases hfetches with
  | refused hopen => simp only [readStart, hopen]
  | broken hopen hfills => simp only [readStart, hopen, hfills.fill_eq]
  | whole hopen hfills => simp only [readStart, hopen, hfills.fill_eq]

/-- What a reader gets is a start of the content. -/
theorem Fetches.isPrefix {path : Text} {room : Nat} {h : Host} {text : Text} {failed : Bool}
    (hfetches : h.Fetches path room text failed) : text <+: (h.contentAt path).getD [] := by
  -- The stream of a file holds its content in one piece.
  have hopened : ∀ {file : File}, h.openForReading path = .ok file →
      file.stream.rest = (h.contentAt path).getD [] := by
    intro file hopen
    rw [contentAt, (openForReading_eq_ok hopen).1]
    exact List.flatten_singleton
  cases hfetches with
  | refused hopen => exact List.nil_prefix
  | broken hopen hfills =>
    rw [← hopened hopen]
    exact hfills.isPrefix
  | whole hopen hfills =>
    rw [← hopened hopen]
    exact hfills.isPrefix

/-- A reader that meets a failure keeps what came before it, a start of the content. Its buffer is
empty just if that is blank, and otherwise the integer at the start of it is taken for that of the
file. -/
theorem readInto_fetched (path : Text) {buffer : List UInt8} (hbuffer : buffer ≠ [])
    (default : Int32) (base : Int) (h : Host) :
    (∃ text failed, h.Fetches path (buffer.length - 1) text failed) ∧
      (∀ text failed, h.Fetches path (buffer.length - 1) text failed → ∃ filled,
        (h.readInto (some path) buffer).1 = (text.stripEnd.length, filled) ∧
          text <+: (h.contentAt path).getD [] ∧ Text.untilNul filled = text.stripEnd.untilNul ∧
          (text.stripEnd.length = 0 ↔ text.all Text.isTrailingBlank = true)) ∧
      ∀ text failed, h.Fetches path 63 text failed →
        (h.readInt32 (some path) default base).1 =
          if text.all Text.isTrailingBlank then default
          else ((Numeral.leading? base text.stripEnd.untilNul).map Int32.ofInt).getD default := by
  refine ⟨exists_fetches path _ h, fun text failed hfetches => ?_, fun text failed hfetches => ?_⟩
  · have hread := fst_readInto (some path) hbuffer h
    rw [hfetches.fst_readStart] at hread
    refine ⟨_, hread, hfetches.isPrefix, Text.untilNul_zeroEnd_append _ _, ?_⟩
    rw [List.length_eq_zero_iff, Text.stripEnd_eq_nil_iff]
  · -- An integer is read through a buffer of its own.
    have hread := fst_readSmall (some path) (by decide : 0 < integerBufferSize) h
    rw [show integerBufferSize - 1 = 63 from rfl, hfetches.fst_readStart] at hread
    rw [fst_readInt32, hread]
    simp only [Text.stripEnd_eq_nil_iff]

/-- The path of a small file. -/
def numberPath : Text :=
  Text.ofString "/file"

/-- A file of four octets that is interrupted after two of them. -/
def interruptedNumber : File where
  content := Text.ofString "1500"
  reads := [.atMost 2, .interrupted]

/-- A file with a fault behind its five octets. -/
def brokenNumber : File where
  content := Text.ofString "12345"
  readFault := some 5

def interruptedFile : Host where
  files := [(numberPath, interruptedNumber)]

def brokenFile : Host where
  files := [(numberPath, brokenNumber)]

/-- The first two octets of 1500 pass for 15. -/
theorem readInto_fetched_interruptedFile :
    List.replicate 64 (0 : UInt8) ≠ [] ∧
      interruptedFile.Fetches numberPath 63 (Text.ofString "15") true ∧
      (interruptedFile.readInto (some numberPath) (List.replicate 64 0)).1.1 = 2 ∧
      (interruptedFile.readInt32 (some numberPath) (-1) 10).1 = 15 := by
  have hopen : interruptedFile.openForReading numberPath = .ok interruptedNumber := rfl
  have hfills : Stream.Fills 63 interruptedNumber.stream
      [.received (Text.ofString "15"), .interrupted] { segments := [Text.ofString "00"] } :=
    .received (by decide) rfl (by decide) (.failed (by decide) rfl trivial)
  have hfetches : interruptedFile.Fetches numberPath 63 (Text.ofString "15") true := by
    refine Fetches.broken hopen hfills ⟨.interrupted, ?_, trivial⟩
    exact List.mem_cons_of_mem _ List.mem_cons_self
  have hbuffer : List.replicate 64 (0 : UInt8) ≠ [] := by decide
  obtain ⟨-, hread, hinteger⟩ := readInto_fetched numberPath hbuffer (-1) 10 interruptedFile
  refine ⟨hbuffer, hfetches, ?_, ?_⟩
  · obtain ⟨filled, hfilled, -⟩ := hread _ _ hfetches
    rw [hfilled]
    rfl
  · rw [hinteger _ _ hfetches]
    rfl

/-- A request fails, and neither is the buffer empty nor does the default stand for the integer. -/
theorem readInt32_of_brokenFile :
    brokenFile.Fetches numberPath 63 (Text.ofString "12345") true ∧
      (brokenFile.readInto (some numberPath) (List.replicate 64 0)).1.1 = 5 ∧
      (brokenFile.readInt32 (some numberPath) (-1) 10).1 = 12345 := by
  have hopen : brokenFile.openForReading numberPath = .ok brokenNumber := rfl
  have hfills : Stream.Fills 63 brokenNumber.stream
      [.received (Text.ofString "12345"), .failed 5] { fault := some 5 } :=
    .received (by decide) rfl (by decide) (.failed (by decide) rfl trivial)
  have hfetches : brokenFile.Fetches numberPath 63 (Text.ofString "12345") true := by
    refine Fetches.broken hopen hfills ⟨.failed 5, ?_, trivial⟩
    exact List.mem_cons_of_mem _ List.mem_cons_self
  have hstart : (brokenFile.readStart (some numberPath) 63).1 = Text.ofString "12345" :=
    hfetches.fst_readStart
  refine ⟨hfetches, ?_, ?_⟩
  · rw [fst_readInto _ (by decide)]
    exact congrArg (fun text => (Text.stripEnd text).length) hstart
  · rw [fst_readInt32, fst_readSmall _ (by decide)]
    rw [show integerBufferSize - 1 = 63 from rfl, hstart]
    rfl

end Host

end LocalNet
