import LocalNet.Lookup
import LocalNet.Gateway
import LocalNet.Proofs.Transfers
import LocalNet.Proofs.Traversals

/-!
# Files under the requests of the library

Reading uses up the schedule of a file and nothing else, and writing touches one file.

- `Host.SameFiles`: two hosts hold the same files, apart from the schedules of their readers;
- `Host.fst_readWhole`, `Host.sameFiles_readWhole`: what a reader gets, and that it only reads;
- `Host.writeWhole_cases`: what a writer learns and leaves;
- `Host.FilesOnly`: two hosts differ in their files at most;
- `Host.KeptByReaders`: what the readers of small files keep, such as these two relations;
- `Source.OnlyReads`, `Runner.OnlyReads`: places of surveys and of commands that only read. Those of
  the running system do.
-/

namespace LocalNet

/-! ## Files by path -/

/-- The file without the schedule of its readers. -/
def File.unread (f : File) : File :=
  { f with reads := [] }

/-- An erasure leaves the entries at other paths. -/
theorem Files.find?_erase_of_ne {path other : Text} (hne : other ≠ path) (files : Files) :
    (files.erase path).find? other = files.find? other := by
  refine lookup_filter (fun file => ?_) files
  exact bne_iff_ne.mpr hne

/-- The entry at a path after an insertion: the new file at its own path, the old one elsewhere. -/
theorem Files.find?_insert (files : Files) (path other : Text) (file : File) :
    (files.insert path file).find? other =
      if other = path then some file else files.find? other := by
  by_cases h : other = path
  · simp [Files.insert, Files.find?, h]
  · have hother : (other == path) = false := beq_eq_false_iff_ne.mpr h
    rw [if_neg h, ← Files.find?_erase_of_ne h files]
    simp only [Files.insert, Files.find?, List.lookup_cons, hother]

namespace Host

/-- The file at a path, if there is one. -/
def fileAt (path : Text) (h : Host) : Option File :=
  h.files.find? path.untilNul

/-- The content of the file at a path, if there is one. -/
def contentAt (path : Text) (h : Host) : Option Text :=
  (h.fileAt path).map File.content

/-- Two hosts hold the same files and serve them alike, apart from what readers have used up of the
schedules. -/
def SameFiles (h h' : Host) : Prop :=
  ∀ path, (h'.fileAt path).map File.unread = (h.fileAt path).map File.unread

theorem SameFiles.refl (h : Host) : h.SameFiles h :=
  fun _ => rfl

theorem SameFiles.trans {h h' h'' : Host} (first : h.SameFiles h') (second : h'.SameFiles h'') :
    h.SameFiles h'' :=
  fun path => (second path).trans (first path)

/-- A file that is put at a path is found at every path that names the same place. -/
theorem fileAt_putFile (path other : Text) (file : File) (h : Host) :
    (h.putFile path file).fileAt other =
      if other.untilNul = path.untilNul then some file else h.fileAt other := by
  unfold fileAt putFile
  exact Files.find?_insert ..

/-- What leaves the files as they are keeps what is read off them. -/
theorem SameFiles.map_eq {α : Type} {h h' : Host} (same : h.SameFiles h') (path : Text)
    {f : File → α} (hf : ∀ file, f file.unread = f file) :
    (h'.fileAt path).map f = (h.fileAt path).map f := by
  have hmap := congrArg (Option.map f) (same path)
  simpa [Function.comp_def, hf] using hmap

/-- There is a file at a path on both hosts or on neither. -/
theorem SameFiles.fileAt_cases {h h' : Host} (same : h.SameFiles h') (path : Text) :
    (h.fileAt path = none ∧ h'.fileAt path = none) ∨
      ∃ file file', h.fileAt path = some file ∧ h'.fileAt path = some file' ∧
        file'.unread = file.unread := by
  have hmap := same path
  cases hfile : h.fileAt path with
  | none =>
    rw [hfile, Option.map_none, Option.map_eq_none_iff] at hmap
    exact .inl ⟨rfl, hmap⟩
  | some file =>
    rw [hfile, Option.map_some] at hmap
    obtain ⟨file', hfile', hunread⟩ := Option.map_eq_some_iff.mp hmap
    exact .inr ⟨file, file', rfl, hfile', hunread⟩

theorem SameFiles.contentAt_eq {h h' : Host} (same : h.SameFiles h') (path : Text) :
    h'.contentAt path = h.contentAt path :=
  same.map_eq path fun _ => rfl

/-! ## Reading -/

/-- The file that a reader opens. -/
theorem openForReading_eq_ok {path : Text} {h : Host} {file : File}
    (hopen : h.openForReading path = .ok file) :
    h.fileAt path = some file ∧ file.readOpenFault = none := by
  unfold openForReading at hopen
  unfold fileAt
  split at hopen
  · simp at hopen
  · next file' hfile =>
    split at hopen
    · simp at hopen
    · next hfault =>
      obtain rfl : file' = file := by simpa using hopen
      exact ⟨hfile, hfault⟩

/-- What a reader of a whole file gets of it: nothing if the file cannot be opened, otherwise the
content, with the fault that stands in place of its end. -/
def contents (path : Text) (h : Host) : Stream.Contents :=
  match h.fileAt path with
  | none => ⟨[], some Errno.noEntry⟩
  | some file =>
    match file.readOpenFault with
    | some number => ⟨[], some number⟩
    | none => ⟨file.content, file.readFault⟩

/-- A reader of a whole file gets the same under every schedule. -/
theorem fst_readWhole (path : Text) (h : Host) : (h.readWhole (some path)).1 = h.contents path := by
  unfold readWhole contents fileAt
  -- The cases are those of the specification; the loop of requests is in the last one.
  cases hfile : h.files.find? path.untilNul with
  | none => simp [openForReading, hfile]
  | some file =>
    cases hfault : file.readOpenFault with
    | some number => simp [openForReading, hfile, hfault]
    | none =>
      have hdrain : (file.stream.drain chunkSize).1 = ⟨file.content, file.readFault⟩ := by
        rw [Stream.fst_drain (by decide)]
        simp [File.stream, Stream.rest]
      simp [openForReading, hfile, hfault, hdrain]

/-- A reader meets the first fault of a file. -/
theorem fault_contents {path : Text} {h : Host} {file : File}
    (hfile : h.fileAt path = some file) :
    (h.contents path).fault = file.readOpenFault.or file.readFault := by
  simp only [contents, hfile]
  cases file.readOpenFault with
  | none => rfl
  | some number => rfl

/-- Without a fault it gets the content. -/
theorem contents_of_no_fault {path : Text} {h : Host} {file : File}
    (hfile : h.fileAt path = some file)
    (hfault : file.readOpenFault.or file.readFault = none) :
    h.contents path = ⟨file.content, none⟩ := by
  obtain ⟨hopen, hread⟩ := Option.or_eq_none_iff.mp hfault
  simp only [contents, hfile, hopen, hread]

theorem SameFiles.contents_eq {h h' : Host} (same : h.SameFiles h') (path : Text) :
    h'.contents path = h.contents path := by
  unfold contents
  rcases same.fileAt_cases path with ⟨hfile, hfile'⟩ | ⟨file, file', hfile, hfile', hunread⟩
  · rw [hfile, hfile']
  · have hopen := congrArg File.readOpenFault hunread
    have hcontent := congrArg File.content hunread
    have hread := congrArg File.readFault hunread
    simp only [File.unread] at hopen hcontent hread
    simp only [hfile, hfile', hopen, hcontent, hread]

/-- A reader that is done with a stream of a file leaves the file as it was. -/
theorem sameFiles_afterReading {path : Text} {h : Host} {file : File}
    (hopen : h.openForReading path = .ok file) (s : Stream) :
    h.SameFiles (h.putFile path (file.afterReading s)) := by
  intro other
  rw [fileAt_putFile]
  split
  · next heq =>
    -- At the path itself only the schedule has changed, which `unread` forgets.
    have hfile := (openForReading_eq_ok hopen).1
    unfold fileAt at hfile ⊢
    simp [heq, hfile, File.unread, File.afterReading]
  · rfl

theorem sameFiles_readWhole (path : Option Text) (h : Host) : h.SameFiles (h.readWhole path).2 := by
  unfold readWhole
  split
  · exact .refl h
  · split
    · exact .refl h
    · next hopen => exact sameFiles_afterReading hopen _

/-- A relation between hosts that is kept by readers of the start of a file, one after the other. -/
structure KeptByReaders (R : Host → Host → Prop) : Prop where
  /-- Nothing need be read. -/
  refl : ∀ h, R h h
  /-- One reader may follow another. -/
  trans : ∀ {h h' h''}, R h h' → R h' h'' → R h h''
  /-- Each reader keeps it. -/
  readStart : ∀ path room h, R h (h.readStart path room).2

namespace KeptByReaders

variable {R : Host → Host → Prop} (hkept : KeptByReaders R)
include hkept

theorem readSmall (path : Option Text) (size : Nat) (h : Host) : R h (h.readSmall path size).2 := by
  unfold Host.readSmall readInto
  simp only
  split
  · exact hkept.refl h
  · exact hkept.readStart path _ h

theorem readInt32 (path : Option Text) (default : Int32) (base : Int) (h : Host) :
    R h (h.readInt32 path default base).2 := by
  have hread := hkept.readSmall path integerBufferSize h
  -- Whatever the text is, nothing happens to the host after it has been read.
  unfold Host.readInt32
  simp only
  split
  · exact hread
  · split <;> exact hread

theorem describeLink (index : Nat) (name : Text) (h : Host) :
    R h (h.describeLink index name).2 := by
  unfold Host.describeLink
  simp only
  -- Three files are read, each on the host that the reading before has left.
  refine hkept.trans (hkept.readInt32 (some (Link.attributePath name "mtu")) 0 10 h) ?_
  generalize (h.readInt32 (some (Link.attributePath name "mtu")) 0 10).2 = h
  refine hkept.trans (hkept.readInt32 (some (Link.attributePath name "flags")) 0 16 h) ?_
  exact hkept.readSmall _ _ _

theorem describeLinks (names : List (Nat × Text)) (h : Host) : R h (h.describeLinks names).2 := by
  induction names generalizing h with
  | nil => exact hkept.refl h
  | cons first others ih =>
    unfold Host.describeLinks
    exact hkept.trans (hkept.describeLink first.1 first.2 h) (ih _)

end KeptByReaders

theorem keptByReaders_sameFiles : KeptByReaders SameFiles where
  refl := .refl
  trans := .trans
  readStart path room h := by
    unfold readStart
    split
    · exact .refl h
    · split
      · exact .refl h
      · next hopen => exact sameFiles_afterReading hopen _

/-! ## Small files -/

/-- The file at a path can be opened, and nothing interrupts its readers. -/
structure Serves (path : Text) (file : File) (h : Host) : Prop where
  /-- The file is there. -/
  fileAt_eq : h.fileAt path = some file
  /-- It can be opened. -/
  readOpenFault_eq : file.readOpenFault = none
  /-- No request that reads is interrupted. -/
  uninterrupted : .interrupted ∉ file.reads

/-- The start of a file stands in the buffer, with zero octets in place of the blanks that end it. -/
theorem fst_readInto (path : Option Text) {buffer : List UInt8} (hbuffer : buffer ≠ []) (h : Host) :
    (h.readInto path buffer).1 =
      ((Text.stripEnd (h.readStart path (buffer.length - 1)).1).length,
        Text.zeroEnd (h.readStart path (buffer.length - 1)).1 ++
          0 :: buffer.drop ((h.readStart path (buffer.length - 1)).1.length + 1)) := by
  rw [readInto, if_neg (by simpa using hbuffer)]

/-- A reader of bounded size gets the start of the file without the blanks that end it. -/
theorem fst_readSmall (path : Option Text) {size : Nat} (hsize : 0 < size) (h : Host) :
    (h.readSmall path size).1 = Text.stripEnd (h.readStart path (size - 1)).1 := by
  have hbuffer : List.replicate size (0 : UInt8) ≠ [] := by
    rw [Ne, List.replicate_eq_nil_iff]
    exact Nat.pos_iff_ne_zero.mp hsize
  have hread := fst_readInto path hbuffer h
  rw [List.length_replicate] at hread
  unfold readSmall
  simp only [hread]
  -- The zero octets are behind the octets that are counted.
  simp [Text.zeroEnd]

/-- The octets for which there is room are those at the start of the file. -/
theorem Serves.fst_readSmall {path : Text} {file : File} {h : Host} (hserves : h.Serves path file)
    {size : Nat} (hsize : 0 < size) :
    (h.readSmall (some path) size).1 = Text.stripEnd (file.content.take (size - 1)) := by
  have hopen : h.openForReading path = .ok file := by
    have hfile := hserves.fileAt_eq
    unfold fileAt at hfile
    simp only [openForReading, hfile, hserves.readOpenFault_eq]
  have hfill : (file.stream.fill (size - 1)).1 = file.content.take (size - 1) := by
    rw [Stream.fst_fill_of_uninterrupted _ _ hserves.uninterrupted]
    simp only [Stream.rest, File.stream, List.flatten_cons, List.flatten_nil, List.append_nil]
  rw [Host.fst_readSmall _ hsize]
  simp only [readStart, hopen, hfill]

/-- Nothing is read where no file is. -/
theorem fst_readSmall_of_absent {path : Text} {h : Host} (hfile : h.fileAt path = none)
    (size : Nat) : (h.readSmall (some path) size).1 = [] := by
  have hopen : h.openForReading path = .error Errno.noEntry := by
    unfold fileAt at hfile
    simp only [openForReading, hfile]
  simp only [readSmall, readInto, readStart, hopen]
  split <;> rfl

/-- The integer with which a small file starts, or the default if there is none. -/
theorem fst_readInt32 (path : Option Text) (default : Int32) (base : Int) (h : Host) :
    (h.readInt32 path default base).1 =
      if (h.readSmall path integerBufferSize).1 = [] then default
      else ((Numeral.leading? base (h.readSmall path integerBufferSize).1.untilNul).map
        Int32.ofInt).getD default := by
  unfold readInt32
  simp only [List.isEmpty_iff]
  split
  · rfl
  · cases Numeral.leading? base (h.readSmall path integerBufferSize).1.untilNul <;> rfl

/-- No decimal integer is read where there is nothing. -/
theorem fst_readInt32_ten (path : Option Text) (default : Int32) (h : Host) :
    (h.readInt32 path default 10).1 =
      ((Numeral.leading? 10 (h.readSmall path integerBufferSize).1.untilNul).map
        Int32.ofInt).getD default := by
  rw [fst_readInt32]
  split
  · next hempty =>
    rw [hempty]
    rfl
  · rfl

/-! ## Writing -/

/-- The file at a path as a writer finds it once it is open: empty, and made if there was none. -/
def emptied (path : Text) (h : Host) : File :=
  { (h.fileAt path).getD {} with content := [] }

/-- The file that a writer opens. -/
theorem openForWriting_eq_ok {path : Text} {h : Host} {file : File}
    (hopen : h.openForWriting path = .ok file) : file = h.emptied path := by
  unfold openForWriting at hopen
  unfold emptied fileAt
  split at hopen
  · next hfile =>
    rw [hfile]
    split at hopen
    · simp at hopen
    · simpa using hopen.symm
  · next hfile =>
    rw [hfile]
    split at hopen
    · simp at hopen
    · simpa using hopen.symm

/-- What a writer of a whole file learns and leaves: either the file could not be opened and all is
as before, or it holds the octets that fit before the fault of writing. -/
theorem writeWhole_cases (path octets : Text) (h : Host) :
    (∃ number, h.writeWhole (some path) octets = (some number, h)) ∨
      ∃ writes, h.writeWhole (some path) octets =
        ((if (h.emptied path).taken octets = octets then none
            else (h.emptied path).writeFault.map Prod.snd).or (h.emptied path).closeFault,
          h.putFile path ((h.emptied path).grown ((h.emptied path).taken octets) writes)) := by
  cases hopen : h.openForWriting path with
  | error number => exact .inl ⟨number, by simp [writeWhole, hopen]⟩
  | ok file =>
    obtain ⟨writes, hwrite⟩ := File.writeAll_eq octets (h.emptied path)
    rw [← openForWriting_eq_ok hopen] at hwrite ⊢
    exact .inr ⟨writes, by simp [writeWhole, hopen, hwrite, File.grown]⟩

end Host

/-! ## Questions that only read -/

/-- A source of surveys that leaves the files of every host as they are. -/
def Source.OnlyReads (source : Source) : Prop :=
  ∀ h : Host, h.SameFiles (source h).2

/-- A runner of commands that leaves the files of every host as they are. -/
def Runner.OnlyReads (runner : Runner) : Prop :=
  ∀ (arguments : List Text) (h : Host), h.SameFiles (runner arguments h).2

namespace Host

theorem sameFiles_survey (h : Host) : h.SameFiles h.survey.2 := by
  unfold survey listLinks
  cases h.links with
  | error number => exact .refl h
  | ok names => exact keptByReaders_sameFiles.describeLinks _ h

/-! ## What reading leaves alone -/

/-- Two hosts differ in their files at most. -/
def FilesOnly (h h' : Host) : Prop :=
  h' = { h with files := h'.files }

theorem FilesOnly.refl (h : Host) : h.FilesOnly h :=
  rfl

theorem FilesOnly.trans {h h' h'' : Host} (first : h.FilesOnly h') (second : h'.FilesOnly h'') :
    h.FilesOnly h'' := by
  unfold FilesOnly
  rw [second, first]

theorem FilesOnly.addresses_eq {h h' : Host} (same : h.FilesOnly h') : h'.addresses = h.addresses := by
  unfold FilesOnly at same
  rw [same]

theorem FilesOnly.calls_eq {h h' : Host} (same : h.FilesOnly h') : h'.calls = h.calls := by
  unfold FilesOnly at same
  rw [same]

theorem keptByReaders_filesOnly : KeptByReaders FilesOnly where
  refl := .refl
  trans := .trans
  readStart path room h := by
    unfold readStart
    split
    · exact .refl h
    · split <;> rfl

end Host

namespace Source

theorem onlyReads_fixed (s : Survey) : OnlyReads (fixed s) :=
  Host.SameFiles.refl

/-- The survey of the running system reads small files and changes none. -/
theorem onlyReads_system : OnlyReads system :=
  Host.sameFiles_survey

theorem OnlyReads.sameFiles_networkOf {source : Source} (hsource : source.OnlyReads) (name : Text)
    (h : Host) : h.SameFiles (source.networkOf name h).2 := by
  unfold networkOf
  simp only
  split <;> exact hsource h

end Source

namespace Runner

theorem onlyReads_fixed (result : CommandResult) : OnlyReads (fixed result) :=
  fun _ => Host.SameFiles.refl

/-- A command of the running system touches no file that the library reads. -/
theorem onlyReads_system : OnlyReads system :=
  fun _ => Host.SameFiles.refl

theorem OnlyReads.sameFiles_lookup {runner : Runner} (hrunner : runner.OnlyReads)
    (command name : Text) (h : Host) : h.SameFiles (Gateway.lookup runner command name h).2 :=
  hrunner _ (h.record _ _)

end Runner

end LocalNet
