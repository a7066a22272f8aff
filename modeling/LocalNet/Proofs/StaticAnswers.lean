import LocalNet.Proofs.StaticAddress

/-!
# Answers about static addresses

Whether an interface is static is asked of two files, each of which may be missing, unreadable from
the start or from some octet on, or readable however the system schedules the requests. The answer
depends on nothing else.

- `Host.Finds`: the states of a file, and what a reader learns in each;
- `Finding.Grants`, `Finding.Silent`: what that says of an interface;
- `LinuxSettings.fst_hasStaticAddress_congr`: what the files let a reader learn decides the answer;
- `LinuxSettings.hasStaticAddress_decision`: the answer in terms of both findings.
-/

namespace LocalNet

/-! ## What is learned of a file -/

/-- What a reader of a whole file learns of it. -/
inductive Finding where
  /-- The file does not exist. -/
  | missing
  /-- The file exists, but not all of it can be read. -/
  | unreadable (number : Errno)
  /-- All of the file was read. -/
  | readable (text : Text)

/-- The states of a file. A fault of opening it comes before any content, and a fault of reading it
stands behind all the content that it has. -/
inductive Host.Finds (path : Text) (h : Host) : Finding → Prop
  /-- Nothing is at the path. -/
  | absent (hfile : h.fileAt path = none) : Finds path h .missing
  /-- The system says of the file that it does not exist. -/
  | vanished {file : File} (hfile : h.fileAt path = some file)
    (hfault : file.readOpenFault.or file.readFault = some Errno.noEntry) :
    Finds path h .missing
  /-- The system gives another reason, and not one for which a reader would ask again. -/
  | broken {file : File} {number : Errno} (hfile : h.fileAt path = some file)
    (hfault : file.readOpenFault.or file.readFault = some number)
    (hentry : number ≠ Errno.noEntry) (hagain : number ≠ Errno.interrupted) :
    Finds path h (.unreadable number)
  /-- There is no fault. -/
  | whole {file : File} {text : Text} (hfile : h.fileAt path = some file)
    (hcontent : file.content = text) (hfault : file.readOpenFault.or file.readFault = none) :
    Finds path h (.readable text)

namespace Finding

variable (rule : Text → Text → Bool) (name : Text)

/-- The file was read, and by a rule its text says that an interface is static. -/
def Grants (f : Finding) : Prop :=
  ∃ text, f = .readable text ∧ rule text name = true

/-- The file is missing, or its text does not say so. -/
def Silent (f : Finding) : Prop :=
  f = .missing ∨ ∃ text, f = .readable text ∧ rule text name = false

/-- The file at a path could not be read. The fault is one of reading, it carries the number of the
reason, and its message names the path and the reason. -/
def Fails (path : Text) (fault : Fault) (f : Finding) : Prop :=
  ∃ number, f = .unreadable number ∧ fault =
    { kind := .io
      code := { domain := .system, number }
      message := Text.ofString "reading " ++ path ++ Text.ofString ": " ++ number.toText }

/-- What a finding says of an interface: nothing for certain if the file could not be read. -/
def answer (path : Text) : Finding → Except Fault Bool
  | .missing => .ok false
  | .unreadable number => .error (Fault.ofErrno .io number (Text.ofString "reading " ++ path))
  | .readable text => .ok (rule text name)

variable (f : Finding) (path : Text)

theorem answer_eq_true_iff : f.answer rule name path = .ok true ↔ f.Grants rule name := by
  cases f <;> simp [answer, Grants]

theorem answer_eq_false_iff : f.answer rule name path = .ok false ↔ f.Silent rule name := by
  cases f <;> simp [answer, Silent]

theorem answer_eq_error_iff (fault : Fault) :
    f.answer rule name path = .error fault ↔ f.Fails path fault := by
  cases f <;> simp [answer, Fails, Fault.ofErrno, eq_comm]

variable {f path}

/-- A file that could not be read gives a fault of reading. -/
theorem Fails.kind_eq {fault : Fault} (h : f.Fails path fault) : fault.kind = .io := by
  obtain ⟨number, -, rfl⟩ := h
  rfl

end Finding

namespace LinuxSettings

variable {path name : Text} {rule : Text → Text → Bool} {h h' : Host}

/-- The answer of a file is that of what a reader learns of it. -/
theorem fst_fileHasStatic_of_finds {f : Finding} (hfinds : h.Finds path f) :
    (fileHasStatic path name rule h).1 = f.answer rule name path := by
  -- Only `whole` needs the text; in the other states the fault alone decides.
  cases hfinds with
  | absent hfile =>
    simp only [fileHasStatic, Host.fst_readWhole, Host.contents, hfile]
    rfl
  | vanished hfile hfault =>
    simp only [fileHasStatic, Host.fst_readWhole, Host.fault_contents hfile, hfault]
    rfl
  | broken hfile hfault hentry =>
    simp only [fileHasStatic, Host.fst_readWhole, Host.fault_contents hfile, hfault, if_neg hentry]
    rfl
  | whole hfile hcontent hfault =>
    subst hcontent
    exact fst_fileHasStatic_of_contents (Host.contents_of_no_fault hfile hfault)

/-- What the two files let a reader learn decides the answer, whatever else there is on a host and
however the requests for their contents are served. -/
theorem fst_hasStaticAddress_congr (s : LinuxSettings) {client definitions : Finding}
    (hclient : h.Finds s.clientPath client) (hdefinitions : h.Finds s.definitionsPath definitions)
    (hclient' : h'.Finds s.clientPath client)
    (hdefinitions' : h'.Finds s.definitionsPath definitions) :
    (s.hasStaticAddress name h').1 = (s.hasStaticAddress name h).1 := by
  rw [fst_hasStaticAddress, fst_hasStaticAddress, fst_fileHasStatic_of_finds hclient,
    fst_fileHasStatic_of_finds hclient', fst_fileHasStatic_of_finds hdefinitions,
    fst_fileHasStatic_of_finds hdefinitions']

/-! ## Main results -/

section Main

variable (s : LinuxSettings) {client definitions : Finding}

/-- The decision over both files. An interface is static if the file of the DHCP client says so, or
if that file does not say so and the file of interface definitions does. There is a fault of reading
if the first file cannot be read, or if it does not say so and the second cannot be read. In all
other cases neither file says so, and it is reported that there is no information about the
interface. There is no other answer, and none is yes with a fault. -/
theorem hasStaticAddress_decision (name : Text) (hclient : h.Finds s.clientPath client)
    (hdefinitions : h.Finds s.definitionsPath definitions) :
    let unknown : Fault :=
      { kind := .noStaticInfo
        code := { domain := .system, number := 0 }
        message := Text.ofString "no static IP configuration found for " ++ name }
    ((s.hasStaticAddress name h).1 = ⟨true, none⟩ ↔
        client.Grants StaticConfig.clientHasStatic name ∨
          client.Silent StaticConfig.clientHasStatic name ∧
            definitions.Grants StaticConfig.definitionsHaveStatic name) ∧
      (∀ fault : Fault, (s.hasStaticAddress name h).1 = ⟨false, some fault⟩ ∧ fault.kind = .io ↔
        client.Fails s.clientPath fault ∨
          client.Silent StaticConfig.clientHasStatic name ∧
            definitions.Fails s.definitionsPath fault) ∧
      ((s.hasStaticAddress name h).1 = ⟨false, some unknown⟩ ↔
        client.Silent StaticConfig.clientHasStatic name ∧
          definitions.Silent StaticConfig.definitionsHaveStatic name) ∧
      ((s.hasStaticAddress name h).1 = ⟨true, none⟩ ∨
        (∃ fault, (s.hasStaticAddress name h).1 = ⟨false, some fault⟩ ∧ fault.kind = .io) ∨
        (s.hasStaticAddress name h).1 = ⟨false, some unknown⟩) ∧
      ¬ ((s.hasStaticAddress name h).1.value = true ∧
        (s.hasStaticAddress name h).1.fault ≠ none) := by
  intro unknown
  -- A fault of reading is never the report that there is no information.
  have hother : ∀ fault : Fault, fault.kind = .io → fault ≠ unknown := by
    rintro _ hkind rfl
    cases hkind
  have hio : ∀ fault, client.Fails s.clientPath fault → fault.kind = .io :=
    fun _ => Finding.Fails.kind_eq
  have hio' : ∀ fault, definitions.Fails s.definitionsPath fault → fault.kind = .io :=
    fun _ => Finding.Fails.kind_eq
  rw [fst_hasStaticAddress, fst_fileHasStatic_of_finds hclient,
    fst_fileHasStatic_of_finds hdefinitions]
  -- What the findings say is put in terms of the two answers, of which each excludes the others.
  simp only [← client.answer_eq_true_iff _ _ s.clientPath,
    ← client.answer_eq_false_iff _ _ s.clientPath,
    ← client.answer_eq_error_iff StaticConfig.clientHasStatic name,
    ← definitions.answer_eq_true_iff _ _ s.definitionsPath,
    ← definitions.answer_eq_false_iff _ _ s.definitionsPath,
    ← definitions.answer_eq_error_iff StaticConfig.definitionsHaveStatic name] at hio hio' ⊢
  generalize client.answer StaticConfig.clientHasStatic name s.clientPath = asked at hio ⊢
  generalize definitions.answer StaticConfig.definitionsHaveStatic name s.definitionsPath = later
    at hio' ⊢
  match asked with
  | .error fault => simp [hio fault rfl, hother fault (hio fault rfl)]
  | .ok true => simp
  | .ok false =>
    match later with
    | .error fault => simp [hio' fault rfl, hother fault (hio' fault rfl)]
    | .ok true => simp
    | .ok false => simp [noInformation, unknown]

/-- A host on which the file of interface definitions breaks off behind a static definition. -/
def brokenDefinitions : Host where
  files :=
    [(Text.ofString "/etc/dhcpcd.conf",
      { content := Text.ofString "interface eth1\nstatic ip_address=192.0.2.1/24\n"
        reads := [.interrupted, .atMost 3, .interrupted] }),
     (Text.ofString "/etc/network/interfaces",
      { content := Text.ofString "iface eth0 inet static\n"
        readLimit := 2
        readFault := some 5 })]

/-- What was read before a fault does not count. -/
theorem hasStaticAddress_decision_brokenDefinitions :
    (hasStaticAddress {} (Text.ofString "eth0") brokenDefinitions).1 =
      ⟨false, some (Fault.ofErrno .io 5 (Text.ofString "reading /etc/network/interfaces"))⟩ := by
  have hclient : brokenDefinitions.Finds (Text.ofString "/etc/dhcpcd.conf")
      (.readable (Text.ofString "interface eth1\nstatic ip_address=192.0.2.1/24\n")) :=
    .whole rfl rfl rfl
  have hdefinitions : brokenDefinitions.Finds (Text.ofString "/etc/network/interfaces")
      (.unreadable 5) :=
    .broken rfl rfl (by decide) (by decide)
  obtain ⟨-, hfault, -⟩ :=
    hasStaticAddress_decision {} (Text.ofString "eth0") hclient hdefinitions
  exact ((hfault _).mpr (.inr ⟨.inr ⟨_, rfl, rfl⟩, 5, rfl, rfl⟩)).1

end Main

end LinuxSettings

end LocalNet
