import LocalNet.Proofs.BoundedReads

/-!
# Buffers of readers

A reader of bounded size works in its buffer: each request puts what it brings behind what came
before, a zero octet goes behind all of it, and then zero octets go over the blanks at its end, the
last one first. However the content is chopped, the result is the same, and no write leaves the
buffer.

- `Text.Strips`: what is left of a text without the blanks that end it;
- `Stream.Fills.eq_take`: the answers of requests that succeed carry as much as there is room for;
- `BufferWrite.ofReader`: the writes of a reader, in order;
- `BufferWrite.foldl_ofReader`: the buffer after them;
- `Host.readInto_in_place`: what is in the buffer of a reader, and that all writes lie within it.
-/

namespace LocalNet

/-! ## Blanks at the end -/

namespace Text

/-- The blanks that may end the content of a small file. -/
def endings : Text :=
  ofString " \t\r\n"

theorem isTrailingBlank_iff {c : UInt8} : isTrailingBlank c = true ↔ c ∈ endings := by
  constructor
  · intro hc
    simp only [isTrailingBlank, Bool.or_eq_true, beq_iff_eq] at hc
    rcases hc with ((rfl | rfl) | rfl) | rfl <;> decide
  · intro hc
    have hendings : endings = [0x20, 0x09, 0x0d, 0x0a] := rfl
    simp only [hendings, List.mem_cons, List.not_mem_nil, or_false] at hc
    rcases hc with rfl | rfl | rfl | rfl <;> rfl

/-- The second text is the first one without the blanks that end it. -/
structure Strips (t kept : Text) : Prop where
  /-- What is missing are blanks. -/
  exists_blanks : ∃ blanks, t = kept ++ blanks ∧ ∀ c ∈ blanks, c ∈ endings
  /-- What is left does not end with one. -/
  getLast?_notMem : ∀ c ∈ kept.getLast?, c ∉ endings

theorem strips_stripEnd (t : Text) : t.Strips t.stripEnd where
  exists_blanks := by
    refine ⟨t.rtakeWhile isTrailingBlank, ?_, fun c hc => ?_⟩
    · exact (List.rdropWhile_append_rtakeWhile (p := isTrailingBlank) (l := t)).symm
    · exact isTrailingBlank_iff.mp (List.mem_rtakeWhile_imp hc)
  getLast?_notMem := by
    intro c hc hmem
    obtain ⟨hne, rfl⟩ := List.mem_getLast?_eq_getLast hc
    exact List.rdropWhile_last_not isTrailingBlank t hne (isTrailingBlank_iff.mpr hmem)

/-- There is one way to strip a text. -/
theorem Strips.eq_stripEnd {t kept : Text} (h : t.Strips kept) : kept = t.stripEnd := by
  obtain ⟨⟨blanks, rfl, hblanks⟩, hlast⟩ := h
  have hnothing : dropEndWhile isTrailingBlank blanks = [] := by
    refine stripEnd_eq_nil_iff.mpr (List.all_eq_true.mpr fun c hc => ?_)
    exact isTrailingBlank_iff.mpr (hblanks c hc)
  by_cases hne : kept = []
  · rw [hne, List.nil_append, stripEnd, hnothing]
  · have hkept : isTrailingBlank (kept.getLast hne) = false := by
      rw [Bool.eq_false_iff]
      exact fun hc => hlast _ (List.getLast_mem_getLast? hne) (isTrailingBlank_iff.mp hc)
    rw [stripEnd, dropEndWhile_append hne hkept, hnothing, List.append_nil]

theorem length_stripEnd_le (t : Text) : t.stripEnd.length ≤ t.length :=
  (List.rdropWhile_prefix isTrailingBlank t).length_le

/-- A blank at the end makes way for a zero octet. -/
theorem zeroEnd_concat_of_blank {c : UInt8} (hc : isTrailingBlank c = true) (t : Text) :
    zeroEnd (t ++ [c]) = zeroEnd t ++ [0] := by
  have hstrip : stripEnd (t ++ [c]) = stripEnd t := List.rdropWhile_concat_pos _ _ _ hc
  have hle := length_stripEnd_le t
  rw [zeroEnd, hstrip, zeroEnd, List.append_assoc, ← List.replicate_succ', List.length_append,
    List.length_singleton, Nat.sub_add_comm hle]

theorem zeroEnd_concat {c : UInt8} (hc : isTrailingBlank c = false) (t : Text) :
    zeroEnd (t ++ [c]) = t ++ [c] := by
  have hstrip : stripEnd (t ++ [c]) = t ++ [c] :=
    List.rdropWhile_concat_neg _ _ _ (by rw [hc]; exact Bool.false_ne_true)
  rw [zeroEnd, hstrip, Nat.sub_self, List.replicate_zero, List.append_nil]

theorem length_zeroEnd (t : Text) : t.zeroEnd.length = t.length := by
  have hle := length_stripEnd_le t
  rw [zeroEnd, List.length_append, List.length_replicate]
  omega

/-- There are zero octets from what is left of a text to the one behind it. -/
theorem getElem?_zeroEnd_append {t : Text} {i : Nat} (hlow : t.stripEnd.length ≤ i)
    (hhigh : i ≤ t.length) (rest : Text) : (t.zeroEnd ++ 0 :: rest)[i]? = some 0 := by
  have hzeros : t.zeroEnd ++ 0 :: rest =
      t.stripEnd ++ (List.replicate (t.length - t.stripEnd.length + 1) 0 ++ rest) := by
    rw [zeroEnd, List.replicate_succ', List.append_assoc, List.append_assoc, List.singleton_append]
  have hlength : i - t.stripEnd.length < t.length - t.stripEnd.length + 1 := by omega
  rw [hzeros, List.getElem?_append_right hlow, List.getElem?_append_left, List.getElem?_replicate,
    if_pos hlength]
  rwa [List.length_replicate]

end Text

/-! ## Requests of a reader -/

namespace Stream.Fills

variable {room : Nat} {s left : Stream} {replies : List Reply}

/-- The answers carry no more than there is room for. -/
theorem length_le (h : Fills room s replies left) :
    (replies.flatMap Reply.octets).length ≤ room := by
  induction h with
  | full => exact Nat.le_refl 0
  | ended => exact Nat.zero_le _
  | failed _ _ hfailure =>
    rw [List.flatMap_singleton, hfailure.octets_eq]
    exact Nat.zero_le _
  | received hroom hread hne _ ih =>
    cases Answers.of_read hroom hread with
    | received _ hsize =>
      rw [List.flatMap_cons, List.length_append, Reply.octets]
      omega
    | ended => exact absurd rfl hne

/-- If no request fails, the answers carry all that there is room for, or all that there is. -/
theorem eq_take (h : Fills room s replies left) (hnone : ∀ reply ∈ replies, ¬ reply.IsFailure) :
    replies.flatMap Reply.octets = s.rest.take room := by
  induction h with
  | full => exact List.take_zero.symm
  | ended hroom hread =>
    cases Answers.of_read hroom hread with
    | received hne => exact absurd rfl hne
    | ended hrest => rw [hrest, List.take_nil, List.flatMap_singleton, Reply.octets]
  | failed _ _ hfailure => exact absurd hfailure (hnone _ List.mem_cons_self)
  | received hroom hread hne _ ih =>
    cases Answers.of_read hroom hread with
    | received _ hsize hrest =>
      -- What arrived stands in front, and the later answers fill the room behind it.
      have hlater := ih fun reply hreply => hnone reply (List.mem_cons_of_mem _ hreply)
      rw [List.flatMap_cons, hlater, Reply.octets, ← hrest, List.take_append,
        List.take_of_length_le hsize]
    | ended => exact absurd rfl hne

/-- If nothing interrupts the requests and no fault stands at the end, none of them fails. -/
theorem forall_not_isFailure (h : Fills room s replies left) (hschedule : .interrupted ∉ s.schedule)
    (hfault : s.fault = none) : ∀ reply ∈ replies, ¬ reply.IsFailure := by
  induction h with
  | full => exact List.forall_mem_nil _
  | ended => exact List.forall_mem_singleton.mpr id
  | failed hroom hread hfailure =>
    cases Answers.of_read hroom hread with
    | interrupted hscheduled => exact absurd hscheduled hschedule
    | received => exact hfailure.elim
    | ended => exact hfailure.elim
    | failed _ hnumber => exact absurd (hfault.symm.trans hnumber) (Option.some_ne_none _).symm
  | received hroom hread hne _ ih =>
    cases Answers.of_read hroom hread with
    | received _ _ _ hfault' hscheduled =>
      refine List.forall_mem_cons.mpr ⟨id, ih (fun hmem => ?_) (hfault'.trans hfault)⟩
      rw [hscheduled] at hmem
      exact hschedule (List.mem_of_mem_tail hmem)
    | ended => exact absurd rfl hne

end Stream.Fills

/-! ## Writes -/

/-- A write to a buffer. -/
structure BufferWrite where
  /-- The first index that is written. -/
  index : Nat
  /-- What is written there and behind. -/
  octets : Text

namespace BufferWrite

/-- The first index behind the write. -/
def stop (w : BufferWrite) : Nat :=
  w.index + w.octets.length

/-- The buffer after the write. -/
def apply (buffer : List UInt8) (w : BufferWrite) : List UInt8 :=
  buffer.take w.index ++ w.octets ++ buffer.drop w.stop

/-- The writes of requests with these answers, if so many octets have arrived before. -/
def arriving : Nat → List Stream.Reply → List BufferWrite
  | _, [] => []
  | count, reply :: replies =>
    ⟨count, reply.octets⟩ :: arriving (count + reply.octets.length) replies

/-- The writes that put zero octets over the blanks at the end of a text, which is given from its
end. -/
def stripping : Text → List BufferWrite
  | [] => []
  | c :: others =>
    if Text.isTrailingBlank c then ⟨others.length, [0]⟩ :: stripping others else []

/-- All writes of a reader whose requests have these answers. The first one makes the buffer an
empty text, in case that the file cannot be opened. -/
def ofReader (replies : List Stream.Reply) : List BufferWrite :=
  let text := replies.flatMap Stream.Reply.octets
  ⟨0, [0]⟩ :: (arriving 0 replies ++ ⟨text.length, [0]⟩ :: stripping text.reverse)

/-- A write behind the front of a buffer leaves the front. -/
theorem apply_append (front back octets : Text) :
    apply (front ++ back) ⟨front.length, octets⟩ =
      front ++ (octets ++ back.drop octets.length) := by
  rw [apply, stop, List.take_left, List.append_assoc, List.drop_length_add_append]

/-- What arrives stands behind the front in one piece. -/
theorem foldl_arriving (replies : List Stream.Reply) (front back : Text) :
    (arriving front.length replies).foldl apply (front ++ back) =
      front ++ (replies.flatMap Stream.Reply.octets ++
        back.drop (replies.flatMap Stream.Reply.octets).length) := by
  induction replies generalizing front back with
  | nil => rfl
  | cons reply replies ih =>
    -- The first answer becomes part of the front for the later ones.
    have hlater := ih (front ++ reply.octets) (back.drop reply.octets.length)
    rw [List.length_append] at hlater
    rw [arriving, List.foldl_cons, apply_append, ← List.append_assoc, hlater, List.flatMap_cons,
      List.length_append, List.drop_drop, List.append_assoc, List.append_assoc]

/-- The blanks that end a text become zero octets. -/
theorem foldl_stripping (t back : Text) :
    (stripping t.reverse).foldl apply (t ++ back) = t.zeroEnd ++ back := by
  induction t using List.reverseRecOn generalizing back with
  | nil => rfl
  | append_singleton t c ih =>
    rw [List.reverse_concat, stripping]
    by_cases hc : Text.isTrailingBlank c = true
    · -- The blank is written over, and it belongs to what is behind the text from then on.
      have hwrite : apply (t ++ [c] ++ back) ⟨t.length, [0]⟩ = t ++ (0 :: back) := by
        rw [List.append_assoc, apply_append]
        rfl
      rw [if_pos hc, List.foldl_cons, List.length_reverse, hwrite, ih,
        Text.zeroEnd_concat_of_blank hc, List.append_assoc, List.singleton_append]
    · rw [if_neg hc, List.foldl_nil, Text.zeroEnd_concat (Bool.eq_false_iff.mpr hc)]

/-- The buffer of a reader in the end. -/
theorem foldl_ofReader (replies : List Stream.Reply) (buffer : List UInt8) :
    (ofReader replies).foldl apply buffer =
      Text.zeroEnd (replies.flatMap Stream.Reply.octets) ++
        0 :: buffer.drop ((replies.flatMap Stream.Reply.octets).length + 1) := by
  -- One write after the other, where each front is what the writes before it have settled.
  have harriving := foldl_arriving replies [] (0 :: buffer.drop 1)
  rw [List.length_nil, List.nil_append, List.nil_append] at harriving
  have hbehind : ∀ count : Nat,
      ((0 :: buffer.drop 1).drop count).drop 1 = buffer.drop (count + 1) := by
    intro count
    rw [List.drop_drop, List.drop_succ_cons, List.drop_drop, Nat.add_comm]
  rw [ofReader, List.foldl_cons, List.foldl_append, List.foldl_cons]
  rw [show apply buffer ⟨0, [0]⟩ = 0 :: buffer.drop 1 from rfl, harriving, apply_append,
    List.length_singleton, hbehind, foldl_stripping, List.singleton_append]

theorem stop_le_of_mem_arriving {w : BufferWrite} {count : Nat} {replies : List Stream.Reply}
    (hw : w ∈ arriving count replies) :
    w.stop ≤ count + (replies.flatMap Stream.Reply.octets).length := by
  induction replies generalizing count with
  | nil => exact absurd hw List.not_mem_nil
  | cons reply replies ih =>
    rw [List.flatMap_cons, List.length_append]
    rcases List.mem_cons.mp hw with rfl | hlater
    · change count + reply.octets.length ≤ _
      omega
    · have hle := ih hlater
      omega

theorem stop_le_of_mem_stripping {w : BufferWrite} {t : Text} (hw : w ∈ stripping t) :
    w.stop ≤ t.length := by
  induction t with
  | nil => exact absurd hw List.not_mem_nil
  | cons c others ih =>
    rw [stripping, List.mem_ite_nil_right] at hw
    rcases List.mem_cons.mp hw.2 with rfl | hlater
    · exact Nat.le_refl _
    · exact Nat.le_succ_of_le (ih hlater)

/-- No write goes further than the zero octet behind what has arrived. -/
theorem stop_le_of_mem_ofReader {w : BufferWrite} {replies : List Stream.Reply}
    (hw : w ∈ ofReader replies) :
    w.stop ≤ (replies.flatMap Stream.Reply.octets).length + 1 := by
  simp only [ofReader, List.mem_cons, List.mem_append] at hw
  rcases hw with rfl | harriving | rfl | hstripping
  · exact Nat.le_add_left 1 _
  · have hle := stop_le_of_mem_arriving harriving
    omega
  · exact Nat.le_refl _
  · have hle := stop_le_of_mem_stripping hstripping
    rw [List.length_reverse] at hle
    omega

end BufferWrite

/-! ## Small files -/

namespace Host

/-- What a reader leaves in its buffer is what its writes put there. If no request fails, the octets
that it has read are the first ones of the content, however that was chopped. What is left of them
without the blanks at their end is counted and starts the buffer, zero octets follow up to the one
behind all that was read, and what is further behind stays. No write leaves the buffer. -/
theorem readInto_in_place (path : Text) {buffer : List UInt8} (hbuffer : buffer ≠ []) {h : Host}
    {file : File} (hopen : h.openForReading path = .ok file) :
    (.interrupted ∉ file.reads → file.readFault = none → ∃ replies left,
      Stream.Fills (buffer.length - 1) file.stream replies left ∧
        ∀ reply ∈ replies, ¬ reply.IsFailure) ∧
    ∀ replies left, Stream.Fills (buffer.length - 1) file.stream replies left →
      let text := replies.flatMap Stream.Reply.octets
      let filled := (BufferWrite.ofReader replies).foldl BufferWrite.apply buffer
      ((∀ reply ∈ replies, ¬ reply.IsFailure) → text = file.content.take (buffer.length - 1)) ∧
      (∃ kept, Text.Strips text kept ∧ (h.readInto (some path) buffer).1 = (kept.length, filled) ∧
        kept <+: filled ∧ ∀ i, kept.length ≤ i → i ≤ text.length → filled[i]? = some 0) ∧
      filled.length = buffer.length ∧
      filled.drop (text.length + 1) = buffer.drop (text.length + 1) ∧
      ∀ w ∈ BufferWrite.ofReader replies, w.stop ≤ buffer.length := by
  constructor
  · intro hschedule hfault
    obtain ⟨replies, hfills⟩ := Stream.exists_fills (buffer.length - 1) file.stream
    exact ⟨replies, _, hfills, hfills.forall_not_isFailure hschedule hfault⟩
  · intro replies left hfills text filled
    have hfilled : filled = Text.zeroEnd text ++ 0 :: buffer.drop (text.length + 1) :=
      BufferWrite.foldl_ofReader replies buffer
    -- There is room for the zero octet behind the text.
    have hroom : text.length + 1 ≤ buffer.length := by
      have hle : text.length ≤ buffer.length - 1 := hfills.length_le
      have hpos := List.length_pos_iff.mpr hbuffer
      omega
    have hstart : (h.readStart (some path) (buffer.length - 1)).1 = text := by
      simp only [readStart, hopen, hfills.fill_eq, text]
    have hstrips := Text.strips_stripEnd text
    refine ⟨fun hnone => ?_, ⟨Text.stripEnd text, hstrips, ?_, ?_, ?_⟩, ?_, ?_, ?_⟩
    · -- The stream of a file holds its content in one piece.
      rw [show text = _ from hfills.eq_take hnone]
      exact congrArg (List.take _) List.flatten_singleton
    · rw [fst_readInto _ hbuffer, hstart, hfilled]
    · rw [hfilled, Text.zeroEnd, List.append_assoc]
      exact List.prefix_append _ _
    · intro i hlow hhigh
      rw [hfilled]
      exact Text.getElem?_zeroEnd_append hlow hhigh _
    · -- Without room for the zero octet the buffer would have grown here.
      rw [hfilled, List.length_append, List.length_cons, List.length_drop, Text.length_zeroEnd]
      omega
    · rw [hfilled, ← List.singleton_append, ← List.append_assoc]
      exact List.drop_left' (by rw [List.length_append, Text.length_zeroEnd, List.length_singleton])
    · intro w hw
      exact Nat.le_trans (BufferWrite.stop_le_of_mem_ofReader hw) hroom

/-- A file that is read in pieces of one, three and again three octets. -/
def choppedFile : File where
  content := Text.ofString "up \n\ndown"
  reads := [.atMost 1]
  readLimit := 3

def choppedHost : Host where
  files := [(numberPath, choppedFile)]

/-- The content is longer than the buffer, and blanks are the last that there is room for. -/
theorem readInto_in_place_chopped :
    List.replicate 6 (0x7e : UInt8) ≠ [] ∧
      choppedHost.openForReading numberPath = .ok choppedFile ∧
      (choppedHost.readInto (some numberPath) (List.replicate 6 0x7e)).1 =
        (2, Text.ofString "up" ++ [0, 0, 0, 0]) := by
  have hbuffer : List.replicate 6 (0x7e : UInt8) ≠ [] := List.cons_ne_nil _ _
  have hopen : choppedHost.openForReading numberPath = .ok choppedFile := rfl
  have hfills : Stream.Fills 5 choppedFile.stream
      [.received (Text.ofString "u"), .received (Text.ofString "p \n"),
        .received (Text.ofString "\n")]
      { segments := [Text.ofString "down"], limit := 3 } :=
    .received (by decide) rfl (by decide) (.received (by decide) rfl (by decide)
      (.received (by decide) rfl (by decide) .full))
  obtain ⟨kept, hstrips, hread, -⟩ :=
    ((readInto_in_place numberPath hbuffer hopen).2 _ _ hfills).2.1
  have hkept : kept = Text.ofString "up" := hstrips.eq_stripEnd
  rw [hkept] at hread
  exact ⟨hbuffer, hopen, hread⟩

end Host

end LocalNet
