import LocalNet.Platform
import LocalNet.Proofs.Interfaces
import LocalNet.Proofs.Sections
import LocalNet.Proofs.Storage

/-!
# Making an address static

A section is added to the file of the DHCP client by writing the whole file anew. The module says
what that leaves when it succeeds and when it does not.

- `Host.Rewrites`: what a writer of a whole file can learn, and what it leaves then;
- `LinuxSettings.appendToClient_cases`: what is done to the file of the DHCP client;
- `LinuxSettings.setStaticAddress_of_fault`: a failure leaves the file as it was, or as much of the
  new content as was written;
- `LinuxSettings.setStaticAddress_of_success`: a success makes the interface static and no other.
-/

namespace LocalNet

/-! ## Rewriting a file -/

namespace Host

/-- What a writer of a whole file can learn once the file is open and empty, and the content that it
leaves. -/
inductive Rewrites (path text : Text) (h : Host) : Option Errno → Text → Prop
  /-- All is written. -/
  | whole (hfits : (h.emptied path).taken text = text)
    (hclose : (h.emptied path).closeFault = none) :
    Rewrites path text h none text
  /-- Some octets do not fit before the fault of writing. -/
  | short {capacity : Nat} {number : Errno}
    (hfault : (h.emptied path).writeFault = some (capacity, number))
    (hshort : capacity < text.length) :
    Rewrites path text h (some number) (text.take capacity)
  /-- All is written, but the file cannot be closed. -/
  | unclosed {number : Errno} (hfits : (h.emptied path).taken text = text)
    (hclose : (h.emptied path).closeFault = some number) :
    Rewrites path text h (some number) text

/-- A writer of a whole file finds it closed to writers, or rewrites it. -/
theorem writeWhole_outcome (path text : Text) (h : Host) :
    (∃ number, h.writeWhole (some path) text = (some number, h)) ∨
      ∃ outcome left writes, h.Rewrites path text outcome left ∧
        h.writeWhole (some path) text =
          (outcome, h.putFile path ((h.emptied path).grown left writes)) := by
  rcases writeWhole_cases path text h with hclosed | ⟨writes, hwrite⟩
  · exact .inl hclosed
  · right
    -- A fault of closing is learned of only if there was no fault of writing.
    rcases File.taken_cases text (h.emptied path) rfl with
      hfits | ⟨capacity, number, hfault, hshort, htaken⟩
    · rw [if_pos hfits, Option.none_or, hfits] at hwrite
      cases hclose : (h.emptied path).closeFault with
      | none => exact ⟨_, _, writes, .whole hfits hclose, hclose ▸ hwrite⟩
      | some number => exact ⟨_, _, writes, .unclosed hfits hclose, hclose ▸ hwrite⟩
    · have hne : (h.emptied path).taken text ≠ text := by
        intro heq
        have hlength := congrArg List.length (htaken.symm.trans heq)
        rw [List.length_take] at hlength
        omega
      rw [if_neg hne, hfault, htaken, Option.map_some, Option.some_or] at hwrite
      exact ⟨_, _, writes, .short hfault hshort, hwrite⟩

/-- A file that is not there, or that can be opened and read to its end. -/
def Readable (path : Text) (h : Host) : Prop :=
  ∀ file, h.fileAt path = some file → file.readOpenFault = none ∧ file.readFault = none

/-- Nothing but the file at a path has changed, apart from what readers have used up of the
schedules, and this file has a given content and is as readable as before. -/
structure Rewritten (path left : Text) (h h' : Host) : Prop where
  /-- The content is the given one. -/
  contentAt_eq : h'.contentAt path = some left
  /-- A reader gets all of it if the file could be read before. -/
  contents_eq : h.Readable path → ∀ other : Text, other.untilNul = path.untilNul →
    h'.contents other = ⟨left, none⟩
  /-- A reader of another file gets the same as before. -/
  contents_of_ne : ∀ other : Text, other.untilNul ≠ path.untilNul →
    h'.contents other = h.contents other

variable {path : Text} {h h' h'' : Host}

/-- A reader gets the content of a file that can be read, and nothing if there is none. -/
theorem Readable.contents_text (hreadable : h.Readable path) :
    (h.contents path).text = (h.contentAt path).getD [] := by
  unfold contents contentAt
  cases hfile : h.fileAt path with
  | none => rfl
  | some file => simp [(hreadable file hfile).1]

/-- A file that can be read gives its end or is missing. -/
theorem Readable.contents_fault (hreadable : h.Readable path) :
    (h.contents path).fault = none ∨ (h.contents path) = ⟨[], some Errno.noEntry⟩ := by
  unfold contents
  cases hfile : h.fileAt path with
  | none => exact .inr rfl
  | some file => exact .inl (by simp [hreadable file hfile])

/-- What leaves the files as they are keeps the file that a writer finds. -/
theorem SameFiles.emptied_eq (same : h.SameFiles h') (path : Text) :
    (h'.emptied path).unread = (h.emptied path).unread := by
  unfold emptied
  rcases same.fileAt_cases path with ⟨hfile, hfile'⟩ | ⟨file, file', hfile, hfile', hunread⟩
  · rw [hfile, hfile']
  · rw [hfile, hfile']
    exact congrArg (fun f : File => { f with content := [] }) hunread

/-- What leaves the files as they are keeps what a writer can learn and leave. -/
theorem SameFiles.rewrites (same : h.SameFiles h') {text left : Text} {outcome : Option Errno}
    (hrewrites : h'.Rewrites path text outcome left) : h.Rewrites path text outcome left := by
  have hunread := same.emptied_eq path
  have hwrite : (h'.emptied path).writeFault = (h.emptied path).writeFault :=
    (congrArg File.writeFault hunread :)
  have hclose : (h'.emptied path).closeFault = (h.emptied path).closeFault :=
    (congrArg File.closeFault hunread :)
  have htaken : (h'.emptied path).taken text = (h.emptied path).taken text :=
    (congrArg (File.taken text) hunread :)
  cases hrewrites with
  | whole hfits hnone => exact .whole (htaken ▸ hfits) (hclose ▸ hnone)
  | short hfault hshort => exact .short (hwrite ▸ hfault) hshort
  | unclosed hfits hfault => exact .unclosed (htaken ▸ hfits) (hclose ▸ hfault)

/-- What leaves the files as they are keeps whether a file can be read. -/
theorem SameFiles.readable (same : h.SameFiles h') (hreadable : h.Readable path) :
    h'.Readable path := by
  intro file hfile
  have hmap := same.map_eq path (f := fun file => (file.readOpenFault, file.readFault)) fun _ => rfl
  rw [hfile, Option.map_some] at hmap
  obtain ⟨file', hfile', hfaults⟩ := Option.map_eq_some_iff.mp hmap.symm
  obtain ⟨hopen, hread⟩ := Prod.mk.inj hfaults
  rw [← hopen, ← hread]
  exact hreadable file' hfile'

/-- A file that is put in place of the one that a writer found has been rewritten. -/
theorem rewritten_putFile (path left : Text) (writes : List Transfer) (h : Host) :
    h.Rewritten path left (h.putFile path ((h.emptied path).grown left writes)) where
  contentAt_eq := by
    unfold contentAt
    rw [fileAt_putFile, if_pos rfl]
    rfl
  contents_eq := by
    intro hreadable other hother
    have hfaults : ((h.fileAt path).getD {}).readOpenFault = none ∧
        ((h.fileAt path).getD {}).readFault = none := by
      cases hfile : h.fileAt path with
      | none => exact ⟨rfl, rfl⟩
      | some file => exact hreadable file hfile
    unfold contents
    rw [fileAt_putFile, if_pos hother]
    simp [File.grown, emptied, hfaults]
  contents_of_ne := by
    intro other hother
    unfold contents
    rw [fileAt_putFile, if_neg hother]

/-- What leaves the files as they are may come before a rewriting. -/
theorem Rewritten.of_sameFiles {left : Text} (hrewritten : h'.Rewritten path left h'')
    (same : h.SameFiles h') : h.Rewritten path left h'' where
  contentAt_eq := hrewritten.contentAt_eq
  contents_eq := fun hreadable => hrewritten.contents_eq (same.readable hreadable)
  contents_of_ne := fun other hother =>
    (hrewritten.contents_of_ne other hother).trans (same.contents_eq other)

/-- What leaves the files as they are may come after a rewriting. -/
theorem Rewritten.sameFiles {left : Text} (hrewritten : h.Rewritten path left h')
    (same : h'.SameFiles h'') : h.Rewritten path left h'' where
  contentAt_eq := (same.contentAt_eq path).trans hrewritten.contentAt_eq
  contents_eq := fun hreadable other hother =>
    (same.contents_eq other).trans (hrewritten.contents_eq hreadable other hother)
  contents_of_ne := fun other hother =>
    (same.contents_eq other).trans (hrewritten.contents_of_ne other hother)

end Host

/-! ## The file of the DHCP client -/

namespace LinuxSettings

variable (s : LinuxSettings)

/-- What is done to the file of the DHCP client: nothing, and there is a fault, or what can be read
of it is written anew with a text behind it. -/
theorem appendToClient_cases (text : Text) (h : Host) :
    (∃ fault, (s.appendToClient text h).1 = some fault ∧
        h.SameFiles (s.appendToClient text h).2) ∨
      ∃ outcome left,
        h.Rewrites s.clientPath ((h.contents s.clientPath).text ++ text) outcome left ∧
        (s.appendToClient text h).1 = outcome.map (fun number =>
          Fault.ofErrno .io number (Text.ofString "writing " ++ s.clientPath)) ∧
        h.Rewritten s.clientPath left (s.appendToClient text h).2 := by
  have hread := h.fst_readWhole s.clientPath
  have same := h.sameFiles_readWhole (some s.clientPath)
  -- What is written depends on what was read, but not on the schedules that reading used up.
  generalize hpair : h.readWhole (some s.clientPath) = pair at hread same
  obtain ⟨contents, h'⟩ := pair
  simp only at hread same
  subst hread
  simp only [appendToClient, hpair]
  split
  · exact .inl ⟨_, rfl, same⟩
  · rcases h'.writeWhole_outcome s.clientPath ((h.contents s.clientPath).text ++ text) with
      ⟨number, hwrite⟩ | ⟨outcome, left, writes, hrewrites, hwrite⟩
    · left
      rw [hwrite]
      exact ⟨_, rfl, same⟩
    · right
      rw [hwrite]
      exact ⟨outcome, left, same.rewrites hrewrites, rfl,
        (h'.rewritten_putFile s.clientPath left writes).of_sameFiles same⟩

/-- The section that is added for an interface whose first network is known. -/
def addition (source : Source) (runner : Runner) (name : Text) (network : Network) (h : Host) :
    Text :=
  StaticConfig.stanza name network
    (Gateway.lookup runner s.routingCommand name (source.networkOf name h).2).1 network.address

/-- What is done when an address is made static: nothing, and there is a fault, or the file of the
DHCP client is written anew with the section of the interface behind it. -/
theorem setStaticAddress_cases {source : Source} {runner : Runner} (hsource : source.OnlyReads)
    (hrunner : runner.OnlyReads) (name : Text) (h : Host) :
    (∃ fault, (s.setStaticAddress source runner name h).1 = some fault ∧
        h.SameFiles (s.setStaticAddress source runner name h).2) ∨
      ∃ network outcome left, (source.networkOf name h).1 = some network ∧
        h.Rewrites s.clientPath
          ((h.contents s.clientPath).text ++ s.addition source runner name network h) outcome left ∧
        (s.setStaticAddress source runner name h).1 = outcome.map (fun number =>
          Fault.ofErrno .io number (Text.ofString "writing " ++ s.clientPath)) ∧
        h.Rewritten s.clientPath left (s.setStaticAddress source runner name h).2 := by
  have same := hsource.sameFiles_networkOf name h
  unfold addition
  generalize hpair : source.networkOf name h = pair at same
  obtain ⟨found, h₁⟩ := pair
  cases found with
  | none =>
    simp only [setStaticAddress, hpair]
    exact .inl ⟨_, rfl, same⟩
  | some network =>
    replace same := same.trans (hrunner.sameFiles_lookup s.routingCommand name h₁)
    generalize hlookup : Gateway.lookup runner s.routingCommand name h₁ = lookup at same
    obtain ⟨gateway, h₂⟩ := lookup
    rw [← same.contents_eq s.clientPath]
    have happend :=
      s.appendToClient_cases (StaticConfig.stanza name network gateway network.address) h₂
    generalize hadded :
      s.appendToClient (StaticConfig.stanza name network gateway network.address) h₂ = added
      at happend
    obtain ⟨fault, h₃⟩ := added
    simp only at happend
    rcases happend with ⟨fault, rfl, hkept⟩ | ⟨outcome, left, hrewrites, rfl, hrewritten⟩
    · left
      simp only [setStaticAddress, hpair, hlookup, hadded]
      exact ⟨fault, rfl, same.trans hkept⟩
    · right
      refine ⟨network, outcome, left, rfl, ?_⟩
      refine ⟨same.rewrites hrewrites, ?_⟩
      cases outcome with
      | none =>
        -- What is logged of the success is not in a file.
        simp only [setStaticAddress, hpair, hlookup, hadded, Option.map_none]
        exact ⟨trivial, (hrewritten.of_sameFiles same).sameFiles (.refl h₃)⟩
      | some number =>
        simp only [setStaticAddress, hpair, hlookup, hadded, Option.map_some]
        exact ⟨trivial, hrewritten.of_sameFiles same⟩

/-! ## Asking for a static address -/

section Answers

variable {path name : Text} {rule : Text → Text → Bool} {h h' : Host}

/-- The answer of a file depends on what a reader gets of it. -/
theorem fst_fileHasStatic_congr (hcontents : h'.contents path = h.contents path) :
    (fileHasStatic path name rule h').1 = (fileHasStatic path name rule h).1 := by
  have hread : (h'.readWhole (some path)).1 = (h.readWhole (some path)).1 := by
    rw [Host.fst_readWhole, Host.fst_readWhole, hcontents]
  simp only [fileHasStatic, hread]
  split
  · rfl
  · split <;> rfl

/-- The answer of a file of which a reader gets everything. -/
theorem fst_fileHasStatic_of_contents {text : Text} (hcontents : h.contents path = ⟨text, none⟩) :
    (fileHasStatic path name rule h).1 = .ok (rule text name) := by
  simp only [fileHasStatic, Host.fst_readWhole, hcontents]

/-- A missing file answers like an empty one, if nothing is static by an empty one. -/
theorem fst_fileHasStatic_of_readable (hreadable : h.Readable path)
    (hempty : rule [] name = false) :
    (fileHasStatic path name rule h).1 = .ok (rule ((h.contentAt path).getD []) name) := by
  rw [← hreadable.contents_text]
  rcases hreadable.contents_fault with hfault | hmissing
  · exact fst_fileHasStatic_of_contents (by rw [← hfault])
  · simp only [fileHasStatic, Host.fst_readWhole, hmissing, hempty]
    rfl

theorem sameFiles_fileHasStatic (path name : Text) (rule : Text → Text → Bool) (h : Host) :
    h.SameFiles (fileHasStatic path name rule h).2 := by
  have same := h.sameFiles_readWhole (some path)
  simp only [fileHasStatic]
  split
  · exact same
  · split <;> exact same

/-- The file of the DHCP client is asked first, and the file of interface definitions if that says
nothing. The first question does not change what the second one is answered. -/
theorem fst_hasStaticAddress (name : Text) (h : Host) :
    (s.hasStaticAddress name h).1 =
      match (fileHasStatic s.clientPath name StaticConfig.clientHasStatic h).1 with
      | .error fault => ⟨false, some fault⟩
      | .ok true => ⟨true, none⟩
      | .ok false =>
        match (fileHasStatic s.definitionsPath name StaticConfig.definitionsHaveStatic h).1 with
        | .error fault => ⟨false, some fault⟩
        | .ok true => ⟨true, none⟩
        | .ok false => ⟨false, some (noInformation name)⟩ := by
  have same := sameFiles_fileHasStatic s.clientPath name StaticConfig.clientHasStatic h
  generalize hclient :
    fileHasStatic s.clientPath name StaticConfig.clientHasStatic h = client at same
  obtain ⟨answer, h'⟩ := client
  rw [← fst_fileHasStatic_congr (same.contents_eq s.definitionsPath)]
  generalize hdefinitions :
    fileHasStatic s.definitionsPath name StaticConfig.definitionsHaveStatic h' = definitions
  obtain ⟨answer', h''⟩ := definitions
  simp only [hasStaticAddress, hclient]
  match answer with
  | .error _ | .ok true => rfl
  | .ok false =>
    simp only [hdefinitions]
    match answer' with
    | .error _ | .ok true | .ok false => rfl

end Answers

section Added

variable {name : Text} {h h' : Host} {network : Network} {gateway : Option Address} {dns : Address}
  (hreadable : h.Readable s.clientPath) (hne : name ≠ [])
  (hname : ∀ c ∈ name, Text.isBlank c = false)
  (hrewritten : h.Rewritten s.clientPath
    ((h.contentAt s.clientPath).getD [] ++ StaticConfig.stanza name network gateway dns) h')

include hreadable hne hname hrewritten

/-- An interface is static once a section for it has been added. -/
theorem hasStaticAddress_of_rewritten : (s.hasStaticAddress name h').1 = ⟨true, none⟩ := by
  have hcontents := hrewritten.contents_eq hreadable s.clientPath rfl
  rw [fst_hasStaticAddress, fst_fileHasStatic_of_contents hcontents,
    StaticConfig.clientHasStatic_append_stanza hne hname]

/-- The answer for an interface stays when a section for another one is added. -/
theorem hasStaticAddress_of_rewritten_of_ne {other : Text} (hother : other ≠ name) :
    (s.hasStaticAddress other h').1 = (s.hasStaticAddress other h).1 := by
  have hclient : (fileHasStatic s.clientPath other StaticConfig.clientHasStatic h').1 =
      (fileHasStatic s.clientPath other StaticConfig.clientHasStatic h).1 := by
    rw [fst_fileHasStatic_of_contents (hrewritten.contents_eq hreadable s.clientPath rfl),
      fst_fileHasStatic_of_readable hreadable rfl,
      StaticConfig.clientHasStatic_append_stanza_of_ne hne hname _ _ _ _ hother]
  have hdefinitions :
      (fileHasStatic s.definitionsPath other StaticConfig.definitionsHaveStatic h').1 =
        (fileHasStatic s.definitionsPath other StaticConfig.definitionsHaveStatic h).1 := by
    by_cases hsame : s.definitionsPath.untilNul = s.clientPath.untilNul
    · -- Both kinds of file are the same file, and a section defines no interface in it.
      have hfile : h.fileAt s.definitionsPath = h.fileAt s.clientPath :=
        congrArg h.files.find? hsame
      have hcontent : h.contentAt s.definitionsPath = h.contentAt s.clientPath :=
        congrArg (Option.map File.content) hfile
      have hreadable' : h.Readable s.definitionsPath := fun file hat => hreadable file (hfile ▸ hat)
      rw [fst_fileHasStatic_of_contents (hrewritten.contents_eq hreadable _ hsame),
        fst_fileHasStatic_of_readable hreadable' rfl, hcontent,
        StaticConfig.definitionsHaveStatic_append_stanza hname]
    · exact fst_fileHasStatic_congr (hrewritten.contents_of_ne _ hsame)
  rw [fst_hasStaticAddress, fst_hasStaticAddress, hclient, hdefinitions]

end Added

/-! ## Main results -/

section Main

variable {source : Source} {runner : Runner} {name : Text} {h : Host}

/-- A disk on which there is room for two octets. -/
def fullDisk : Host where
  files := [(Text.ofString "/etc/dhcpcd.conf",
    { content := Text.ofString "keep\n", writeFault := some (2, 28) })]

/-- A survey with one link and one address. -/
def oneLink : Survey :=
  .ok [⟨{ name := Text.ofString "eth0" },
    .ok [{ network := ⟨Address.v4 192 0 2 10, Mask.ofPrefix 24 32⟩ }]⟩]

theorem fst_setStaticAddress_fullDisk :
    (setStaticAddress {} (.fixed oneLink) (.fixed {}) (Text.ofString "eth0") fullDisk).1 =
      some (Fault.ofErrno .io 28 (Text.ofString "writing /etc/dhcpcd.conf")) := by
  decide +kernel

/-- A link with an address, and a file that ends amid a line of the section of another link. -/
def openSection : Host where
  files := [(Text.ofString "/etc/dhcpcd.conf",
    { content := Text.ofString "interface eth1\r\nstatic ip_addr"
      reads := [.interrupted, .atMost 3]
      writes := [.atMost 1, .interrupted] })]
  links := .ok [(1, Text.ofString "eth0")]
  addresses := .ok
    [{ label := some (Text.ofString "eth0")
       address := some (.inet #v[192, 0, 2, 10])
       mask := some (.inet #v[255, 255, 255, 0]) }]

end Main

end LinuxSettings

end LocalNet
