import LocalNet.Proofs.AddressText
import LocalNet.Proofs.PortTexts
import LocalNet.Proofs.Probes
import LocalNet.Proofs.Storage
import LocalNet.Proofs.ToolRuns
import LocalNet.Tool.PortCheck

/-!
# Verdicts about ports

The tool for ports calls a port of an address available just if it was asked for this port of this
address and its probe took the port and gave it back, and in use just if it was asked for it and the
call that decided the probe said so. If it was asked for no port it makes no request about sockets.

- `Probe.Ending.ofCalls?`: how the last attempt of a probe ended, read off the calls;
- `Tool.PortCheck.Asked`, `Tool.PortCheck.Requested`: what groups and arguments ask for;
- `Tool.PortCheck.verdictLine`: the line of a verdict, which names transport, address and port;
- `Tool.PortCheck.Available`, `Tool.PortCheck.InUse`: the two verdicts in print;
- `Tool.portCheck_verdicts`: when they are printed.
-/

namespace LocalNet

/-! ## Endings of attempts -/

namespace Probe

/-- How the last attempt of a probe ended, read off the last calls: the one before the socket was
closed has failed or not, or there was no socket. -/
def Ending.ofCalls? (calls : List SocketCall) : Option Ending :=
  match calls.reverse with
  | ⟨.close, _⟩ :: ⟨r, some number⟩ :: _ => some (.failed r number)
  | ⟨.close, closing⟩ :: _ => some (.taken closing)
  | ⟨r, some number⟩ :: _ => some (.failed r number)
  | _ => none

section

variable {transport transport' : Transport} {a a' : Address} {port port' : Nat} {dualStack : Bool}
  {e e' : Ending} {calls : List SocketCall}

theorem Attempted.ofCalls?_append (h : Attempted (plan transport a port dualStack) e calls)
    (before : List SocketCall) : Ending.ofCalls? (before ++ calls) = some e := by
  cases h with
  | @unopened opening later number hplan =>
    obtain ⟨others, hothers, -⟩ := exists_plan_eq transport a port dualStack
    obtain ⟨rfl, -⟩ := List.cons.inj (hothers.symm.trans hplan)
    -- The only call asks for a socket, so that it is not mistaken for one that closes it.
    simp [Ending.ofCalls?, SocketRequest.refused]
  | refused number closing hplan =>
    simp [Ending.ofCalls?, SocketRequest.refused]
  | taken closing =>
    -- Before the socket is closed there is always a call, and it has not failed.
    cases transport <;> cases dualStack <;>
      simp [Ending.ofCalls?, plan, SocketRequest.granted]

/-- The calls of a probe say how its last attempt ended. -/
theorem Course.ofCalls?_eq (h : Course transport a port e calls) :
    Ending.ofCalls? calls = some e := by
  cases h with
  | direct _ hcalls => exact hcalls.ofCalls?_append []
  | both _ hcalls _ => exact hcalls.ofCalls?_append []
  | fallback _ hcalls hothers => exact hothers.ofCalls?_append _

theorem Course.ending_unique (h : Course transport a port e calls)
    (h' : Course transport' a' port' e' calls) : e = e' :=
  Option.some.inj (h.ofCalls?_eq.symm.trans h'.ofCalls?_eq)

end

end Probe

/-- The question for privileged ports is answered from a file. -/
theorem LinuxSettings.filesOnly_mayBindPrivileged (s : LinuxSettings) (h : Host) :
    h.FilesOnly (s.mayBindPrivileged h).2 := by
  unfold mayBindPrivileged
  split
  · exact .refl h
  · simp only
    split
    · exact .refl h
    · exact Host.keptByReaders_filesOnly.readInt32 (some s.portStartPath) (-1) 10 h

namespace Tool

open Arguments (Kept given?)

theorem portCheck_distinct : portCheck.Distinct where
  keys := by decide
  flags := by decide

namespace PortCheck

/-! ## Requests -/

/-- What groups of the tool ask for. -/
structure Asked (groups : List (Arguments.Group Key)) (t : Transport) (a : Address) (port : Nat) :
    Prop where
  /-- They do not ask for privileged ports. -/
  unprivileged : ∀ g ∈ groups, g.key ≠ .privileged
  /-- The port is given. -/
  port_signed : ∃ text, given? groups .port = some text ∧ Decimal.Signed text port
  /-- It is one that can exist. -/
  port_le : port ≤ 65535
  /-- The transport is given by its name, or is the usual one. -/
  transport_eq : (given? groups .transport).getD (Text.ofString "tcp") = Text.ofString t.name
  /-- The address is given, or stays unset. -/
  address_eq : (given? groups .address).elim (some Address.unset) Address.parse? = some a

/-- What arguments of the tool ask for, where a log reads the names of levels: they are accepted and
ask for a port. -/
def Requested (levelOf : Text → Log.Level) (arguments : List Text) (t : Transport) (a : Address)
    (port : Nat) : Prop :=
  ∃ groups, portCheck.Accepts levelOf arguments groups ∧ Asked groups t a port

section

variable {known : Arguments Key} {groups : List (Arguments.Group Key)} {t : Transport} {a : Address}
  {port : Nat}

/-- The port, the transport and the address are read as they are given. -/
theorem request_eq_ok_iff {portText : Text} {r : Request} : request portText known = .ok r ↔
    (Decimal.Signed portText r.port ∧ 0 ≤ r.port ∧ r.port ≤ 65535) ∧
      (known.value? .transport).getD (Text.ofString "tcp") = r.transport ∧
      (∃ t : Transport, r.transport = Text.ofString t.name) ∧
      (known.value? .address).elim (some Address.unset) Address.parse? = some r.address := by
  obtain ⟨n, name, a⟩ := r
  rw [← Arguments.port_eq_ok_iff]
  unfold request
  generalize (known.value? .transport).getD (Text.ofString "tcp") = text
  cases Arguments.port portText with
  | error e => simp [Except.mapError, bind, Except.bind]
  | ok m =>
    simp only [Except.mapError, bind, Except.bind]
    cases hname : Transport.ofText? text with
    | none =>
      -- The name of a transport would be read.
      have hnone : ∀ t : Transport, text ≠ Text.ofString t.name := by
        rintro t rfl
        rw [t.ofText?_name] at hname
        cases hname
      constructor
      · intro h
        cases h
      · rintro ⟨-, rfl, ⟨t, ht⟩, -⟩
        exact absurd ht (hnone t)
    | some t =>
      have htext := Transport.eq_name_of_ofText? hname
      -- The transport is the one that is read, and only the address can be refused.
      have hrequest (b : Address) : (⟨m, text, b⟩ : Request) = ⟨n, name, a⟩ ↔
          m = n ∧ text = name ∧ (∃ t : Transport, name = Text.ofString t.name) ∧ b = a := by
        constructor
        · rintro ⟨⟩
          exact ⟨rfl, rfl, ⟨t, htext⟩, rfl⟩
        · rintro ⟨rfl, rfl, -, rfl⟩
          rfl
      cases known.value? .address with
      | none => simpa [pure, Except.pure] using hrequest Address.unset
      | some addressText =>
        cases hread : Address.parse? addressText with
        | none => simp [hread, throw, throwThe, MonadExceptOf.throw]
        | some b => simpa [hread, pure, Except.pure] using hrequest b

/-- Groups ask for a port just if the port, the transport and the address among them are read. -/
theorem asked_iff (hkept : Kept [] groups known) : Asked groups t a port ↔
    ¬ known.has .privileged = true ∧ ∃ portText, known.value? .port = some portText ∧
      request portText known = .ok ⟨port, Text.ofString t.name, a⟩ := by
  simp only [request_eq_ok_iff, hkept.has_iff, hkept.value?_eq]
  constructor
  · intro h
    obtain ⟨text, hgiven, hsigned⟩ := h.port_signed
    have hle := h.port_le
    have hunprivileged : ¬ ∃ g ∈ groups, g.key = Key.privileged := by
      rintro ⟨g, hg, hkey⟩
      exact h.unprivileged g hg hkey
    refine ⟨hunprivileged, text, hgiven, ⟨hsigned, ?_⟩, h.transport_eq, ⟨t, rfl⟩, h.address_eq⟩
    omega
  · rintro ⟨hprivileged, text, hgiven, ⟨hsigned, -, hle⟩, htransport, -, haddress⟩
    exact
      { unprivileged := fun g hg hkey => hprivileged ⟨g, hg, hkey⟩
        port_signed := ⟨text, hgiven, hsigned⟩
        port_le := by omega
        transport_eq := htransport
        address_eq := haddress }

end

/-! ## Verdicts in print -/

/-- The line of a verdict on a port of an address: the transport, the address, for which a star
stands if it is unset, the port and the verdict. -/
def verdictLine (verdict : String) (t : Transport) (a : Address) (port : Nat) : Text :=
  Text.ofString (if t = .tcp then "tcp " else "udp ")
    ++ (if a = Address.unset then Text.ofString "*" else a.toText)
    ++ ':'.toUInt8 :: Decimal.ofNat port
    ++ (Text.ofString ": " ++ Text.ofString verdict ++ Text.ofString "\n")

section

variable {verdict : String} {t t' : Transport} {a a' : Address} {port port' : Nat}

/-- The star stands for no other address. -/
theorem host_inj (h : (if a = Address.unset then Text.ofString "*" else a.toText) =
    if a' = Address.unset then Text.ofString "*" else a'.toText) : a = a' := by
  have hstar (b : Address) : Text.ofString "*" ≠ b.toText := by
    intro heq
    have hmem : '*'.toUInt8 ∈ b.toText := heq ▸ List.mem_singleton.mpr rfl
    exact absurd (b.isTextOctet_toText _ hmem) (by decide)
  split at h <;> split at h
  · next ha ha' => rw [ha, ha']
  · exact absurd h (hstar a')
  · exact absurd h.symm (hstar a)
  · exact Address.toText_inj h

/-- A verdict names the transport, the address and the port that it is about. -/
theorem verdictLine_inj (h : verdictLine verdict t a port = verdictLine verdict t' a' port') :
    t = t' ∧ a = a' ∧ port = port' := by
  -- A port holds no colon, so that the last one in front of the verdict is known.
  have hcolon (n : Nat) : ':'.toUInt8 ∉ Decimal.ofNat n := fun hmem =>
    absurd (Decimal.isDigit_of_mem_ofNat hmem) (by decide)
  have hcut := congrArg (Text.cutLast? ':'.toUInt8) (List.append_cancel_right h)
  rw [Text.cutLast?_append_cons _ (hcolon port), Text.cutLast?_append_cons _ (hcolon port'),
    Option.some.injEq, Prod.mk.injEq] at hcut
  obtain ⟨hfront, hport⟩ := hcut
  have hlength : (Text.ofString (if t = .tcp then "tcp " else "udp ")).length =
      (Text.ofString (if t' = .tcp then "tcp " else "udp ")).length := by
    cases t <;> cases t' <;> rfl
  obtain ⟨hname, hhost⟩ := List.append_inj hfront hlength
  refine ⟨?_, host_inj hhost, Decimal.ofNat_inj hport⟩
  cases t <;> cases t' <;> first | rfl | exact absurd hname (by decide)

end

/-- The tool says that a port is available. -/
def Available (t : Transport) (a : Address) (port : Nat) (r : ToolResult) : Prop :=
  r.stdout = verdictLine "available" t a port

/-- The tool says that a port is in use. -/
def InUse (t : Transport) (a : Address) (port : Nat) (r : ToolResult) : Prop :=
  r.stdout = verdictLine "in use" t a port

/-- The tool says nothing about a port. -/
def Silent (r : ToolResult) : Prop :=
  ¬ Text.ofString ": available\n" <:+ r.stdout ∧ ¬ Text.ofString ": in use\n" <:+ r.stdout

/-- A text ends in one way only. -/
theorem not_suffix_of_suffix {line t : Text} (other : Text) (h : line <:+ t)
    (hne : ¬ line <:+ other ∧ ¬ other <:+ line) : ¬ other <:+ t :=
  fun hother => (List.suffix_or_suffix_of_suffix h hother).elim hne.1 hne.2

section

variable {t : Transport} {a : Address} {port : Nat} {r : ToolResult}

theorem Available.ends (h : Available t a port r) :
    Text.ofString ": available\n" <:+ r.stdout ∧ ¬ Text.ofString ": in use\n" <:+ r.stdout := by
  have hends : Text.ofString ": available\n" <:+ r.stdout := h ▸ List.suffix_append _ _
  exact ⟨hends, not_suffix_of_suffix _ hends (by decide)⟩

theorem InUse.ends (h : InUse t a port r) :
    Text.ofString ": in use\n" <:+ r.stdout ∧ ¬ Text.ofString ": available\n" <:+ r.stdout := by
  have hends : Text.ofString ": in use\n" <:+ r.stdout := h ▸ List.suffix_append _ _
  exact ⟨hends, not_suffix_of_suffix _ hends (by decide)⟩

end

/-- The tool calls an endpoint as the line of a verdict names it. -/
theorem verdictLine_eq (verdict : String) (t : Transport) (a : Address) (port : Nat) :
    verdictLine verdict t a port = place (Text.ofString t.name) a port
      ++ (Text.ofString ": " ++ Text.ofString verdict ++ Text.ofString "\n") := by
  have hname : Text.ofString (if t = .tcp then "tcp " else "udp ") =
      Text.ofString t.name ++ Text.ofString " " := by cases t <;> rfl
  have hport : Text.ofString ":" ++ Decimal.ofInt port = ':'.toUInt8 :: Decimal.ofNat port := rfl
  simp only [verdictLine, place, hname, ← a.isUnset_iff, ← hport, List.append_assoc]

theorem available_line (t : Transport) (a : Address) (port : Nat) : Available t a port
    (.line (place (Text.ofString t.name) a port ++ Text.ofString ": available")) := by
  rw [Available, verdictLine_eq]
  exact List.append_assoc _ (Text.ofString ": available") (Text.ofString "\n")

theorem inUse_line (t : Transport) (a : Address) (port : Nat) : InUse t a port
    { exitCode := 1
      stdout := place (Text.ofString t.name) a port ++ Text.ofString ": in use\n" } :=
  (verdictLine_eq "in use" t a port).symm

theorem silent_of_nil {r : ToolResult} (h : r.stdout = []) : Silent r := by
  rw [Silent, h]
  decide

/-- No line of the usage text ends like a verdict. -/
theorem silent_of_usage {r : ToolResult} (h : r.stdout = portCheck.usage) : Silent r := by
  have hlines : ∀ d ∈ definitions, ∀ verdict ∈ [": available\n", ": in use\n"],
      ¬ Arguments.usageLine d <:+ Text.ofString verdict ∧
        ¬ Text.ofString verdict <:+ Arguments.usageLine d := by decide
  have hne : definitions ≠ [] := by decide
  obtain ⟨d, hd, hline⟩ := Arguments.exists_usageLine_suffix (Text.ofString name)
    (Text.ofString description) hne
  rw [Silent, h]
  exact ⟨not_suffix_of_suffix _ hline (hlines d hd _ (by simp)),
    not_suffix_of_suffix _ hline (hlines d hd _ (by simp))⟩

/-- The answer to the question for privileged ports is no verdict, and no request is made for it. -/
theorem runPrivileged_silent (h : Host) :
    Silent (runPrivileged h).1 ∧ (runPrivileged h).2.calls = h.calls := by
  have hcalls := (LinuxSettings.filesOnly_mayBindPrivileged {} h).calls_eq
  change (Platform.default.mayBindPrivileged h).2.calls = h.calls at hcalls
  unfold runPrivileged
  rcases hcheck : Platform.default.mayBindPrivileged h with ⟨⟨value, fault⟩, h'⟩
  rw [hcheck] at hcalls
  cases fault with
  | some fault => exact ⟨silent_of_nil rfl, hcalls⟩
  | none =>
    refine ⟨?_, hcalls⟩
    -- Either way the line ends with the word for what is allowed.
    have hline : Text.ofString "allowed\n" <:+ (ToolResult.line (Text.ofString "Privileged ports (<"
        ++ Decimal.ofNat privilegedLimit ++ Text.ofString "): "
        ++ Text.ofString (if value then "allowed" else "NOT allowed"))).stdout := by
      cases value <;> decide
    exact ⟨not_suffix_of_suffix _ hline (by decide), not_suffix_of_suffix _ hline (by decide)⟩

/-! ## Answers -/

section

variable {known : Arguments Key} {groups : List (Arguments.Group Key)} {t : Transport} {a : Address}
  {port : Nat}

/-- A port that is asked for is checked. -/
theorem answer_of_asked (hkept : Kept [] groups known) (h : Asked groups t a port) (host : Host) :
    answer known host = runCheck (Text.ofString t.name) a port host := by
  obtain ⟨hprivileged, portText, hport, hrequest⟩ := (asked_iff hkept).mp h
  simp only [answer, if_neg hprivileged, hport, hrequest]

/-- If no port is asked for, nothing is said about one and no request is made. -/
theorem answer_of_not_asked (hkept : Kept [] groups known)
    (h : ∀ t a port, ¬ Asked groups t a port) (host : Host) :
    Silent (answer known host).1 ∧ (answer known host).2.calls = host.calls := by
  unfold answer
  split
  · exact runPrivileged_silent host
  · next hprivileged =>
    split
    · exact ⟨silent_of_usage rfl, rfl⟩
    · next portText hport =>
      split
      · next r hrequest =>
        -- What is read is asked for.
        obtain ⟨⟨-, hlow, -⟩, -, ⟨t, ht⟩, -⟩ := request_eq_ok_iff.mp hrequest
        refine absurd ((asked_iff hkept).mpr ⟨hprivileged, portText, hport, ?_⟩)
          (h t r.address r.port.toNat)
        rw [Int.toNat_of_nonneg hlow, ← ht]
        exact hrequest
      · exact ⟨silent_of_nil rfl, rfl⟩

/-- What the tool says about a port, by how the last attempt of its probe ended. -/
inductive Reports (t : Transport) (a : Address) (port : Nat) : Probe.Ending → ToolResult → Prop
  /-- The port was taken and given back. -/
  | available {r : ToolResult} (hline : Available t a port r) (hcode : r.exitCode = 0) :
    Reports t a port (.taken none) r
  /-- The call that decided says that it is in use. -/
  | inUse {e : Probe.Ending} {r : ToolResult} (hnumber : e.number? = some Errno.addressInUse)
      (hline : InUse t a port r) (hcode : r.exitCode = 1) :
    Reports t a port e r
  /-- There is another fault. -/
  | neither {e : Probe.Ending} {r : ToolResult} (htaken : e ≠ .taken none)
      (hnumber : e.number? ≠ some Errno.addressInUse) (hsilent : Silent r) :
    Reports t a port e r

/-- The check of a port reports how its probe ended. -/
theorem runCheck_reports (t : Transport) (a : Address) (hport : port ≤ 65535) (h : Host) :
    ∃ calls e, h.Asks calls (runCheck (Text.ofString t.name) a port h).2 ∧
      Probe.Course t a port e calls ∧
      Reports t a port e (runCheck (Text.ofString t.name) a port h).1 := by
  obtain ⟨calls, e, asks, hcourse, hfault⟩ :=
    Probe.check_cases (p := .default) (.linux {} Source.system Runner.system) t a
      (Int.natCast_nonneg port) (by unfold Probe.maxPort; omega) h
  have htells := Probe.tells_fault (Probe.label t a port) e
  rw [← hfault] at htells
  unfold runCheck
  rcases hcheck : Probe.check .default (Text.ofString t.name) a port h with ⟨_ | fault, h'⟩
  · rw [hcheck] at asks htells
    -- Without a fault the port was taken and given back.
    obtain rfl := htells.success.mp rfl
    exact ⟨_, _, asks, hcourse, .available (available_line t a port) rfl⟩
  · rw [hcheck] at asks htells
    obtain ⟨-, -, hnumber⟩ := htells.wrapped fault rfl []
    have hinUse := hnumber .default (.linux {} Source.system Runner.system)
    by_cases hfault : fault.isAddressInUse .default = true
    · simp only [hfault, if_true]
      exact ⟨_, _, asks, hcourse, .inUse (hinUse.mp hfault) (inUse_line t a port) rfl⟩
    · have htaken : e ≠ .taken none := fun heq => absurd (htells.success.mpr heq) nofun
      simp only [hfault]
      exact ⟨_, _, asks, hcourse,
        .neither htaken (fun heq => hfault (hinUse.mpr heq)) (silent_of_nil rfl)⟩

section

variable {t' : Transport} {a' : Address} {port' : Nat} {e : Probe.Ending} {r : ToolResult}

/-- That a port is available is said of no other port, and only if the probe took it. -/
theorem Reports.available_iff (h : Reports t a port e r) : Available t' a' port' r ↔
    (t = t' ∧ a = a' ∧ port = port') ∧ e = .taken none := by
  cases h with
  | available hline _ =>
    constructor
    · intro hline'
      exact ⟨verdictLine_inj (hline.symm.trans hline'), rfl⟩
    · rintro ⟨⟨rfl, rfl, rfl⟩, -⟩
      exact hline
  | inUse hnumber hline _ =>
    refine iff_of_false (fun hline' => hline.ends.2 hline'.ends.1) ?_
    rintro ⟨-, rfl⟩
    cases hnumber
  | neither htaken _ hsilent =>
    exact iff_of_false (fun hline => hsilent.1 hline.ends.1) fun htold => htaken htold.2

/-- That a port is in use is said of no other port, and only if the call that decided says so. -/
theorem Reports.inUse_iff (h : Reports t a port e r) : InUse t' a' port' r ↔
    (t = t' ∧ a = a' ∧ port = port') ∧ e.number? = some Errno.addressInUse := by
  cases h with
  | available hline _ =>
    refine iff_of_false (fun hline' => hline.ends.2 hline'.ends.1) ?_
    rintro ⟨-, hnumber⟩
    cases hnumber
  | inUse hnumber hline _ =>
    constructor
    · intro hline'
      exact ⟨verdictLine_inj (hline.symm.trans hline'), hnumber⟩
    · rintro ⟨⟨rfl, rfl, rfl⟩, -⟩
      exact hline
  | neither _ hother hsilent =>
    exact iff_of_false (fun hline => hsilent.2 hline.ends.1) fun htold => hother htold.2

/-- What ends like a verdict is one, with the exit code that belongs to it. -/
theorem Reports.ends (h : Reports t a port e r) :
    (Text.ofString ": available\n" <:+ r.stdout → r.exitCode = 0 ∧ Available t a port r) ∧
      (Text.ofString ": in use\n" <:+ r.stdout → r.exitCode = 1 ∧ InUse t a port r) := by
  cases h with
  | available hline hcode =>
    exact ⟨fun _ => ⟨hcode, hline⟩, fun hends => absurd hends hline.ends.2⟩
  | inUse _ hline hcode =>
    exact ⟨fun hends => absurd hends hline.ends.2, fun _ => ⟨hcode, hline⟩⟩
  | neither _ _ hsilent =>
    exact ⟨fun hends => absurd hends hsilent.1, fun hends => absurd hends hsilent.2⟩

end

end

/-! ## Runs -/

section

variable {arguments : List Text}

/-- A run that is asked for a port probes it and reports how the probe ended. -/
theorem run_of_requested {t : Transport} {a : Address} {port : Nat} {h : Host}
    (hrequested : Requested h.log.levelOf arguments t a port) :
    ∃ calls e, h.Asks calls (portCheck.run arguments h).2 ∧ Probe.Course t a port e calls ∧
      Reports t a port e (portCheck.run arguments h).1 := by
  obtain ⟨groups, haccepts, hasked⟩ := hrequested
  obtain ⟨known, log, hkept, hrun, -⟩ := run_of_accepts portCheck_distinct haccepts
  have hanswer := hrun.trans (answer_of_asked hkept hasked { h with log })
  obtain ⟨calls, e, asks, hcourse, hreports⟩ := runCheck_reports t a hasked.port_le { h with log }
  rw [hanswer]
  exact ⟨calls, e, asks.of_log, hcourse, hreports⟩

/-- Any other run says nothing about a port and makes no request about sockets. -/
theorem run_of_not_requested {h : Host}
    (hnone : ∀ t a port, ¬ Requested h.log.levelOf arguments t a port) :
    Silent (portCheck.run arguments h).1 ∧ (portCheck.run arguments h).2.calls = h.calls := by
  by_cases haccepts : ∃ groups, portCheck.Accepts h.log.levelOf arguments groups
  · obtain ⟨groups, haccepts⟩ := haccepts
    obtain ⟨known, log, hkept, hrun, -⟩ := run_of_accepts portCheck_distinct haccepts
    have hanswer : portCheck.run arguments h = answer known { h with log } := hrun
    rw [hanswer]
    refine answer_of_not_asked hkept (fun t a port hasked => ?_) { h with log }
    exact hnone t a port ⟨groups, haccepts, hasked⟩
  · obtain ⟨hhost, hprinted⟩ := run_of_not_accepts portCheck_distinct (not_exists.mp haccepts)
    exact ⟨hprinted.elim silent_of_nil silent_of_usage, congrArg Host.calls hhost⟩

/-- What ends like a verdict is the report on a port that was asked for. -/
theorem exists_reports {h : Host} (hspeaks : ¬ Silent (portCheck.run arguments h).1) :
    ∃ t a port calls e, Requested h.log.levelOf arguments t a port ∧
      h.Asks calls (portCheck.run arguments h).2 ∧ Probe.Course t a port e calls ∧
      Reports t a port e (portCheck.run arguments h).1 := by
  by_contra hnone
  refine hspeaks (run_of_not_requested fun t a port hrequested => hnone ?_).1
  obtain ⟨calls, e, hreports⟩ := run_of_requested hrequested
  exact ⟨t, a, port, calls, e, hrequested, hreports⟩

/-- A run that is asked for a port reports how any probe ended that makes the same calls. -/
theorem reports_of_course {t t' : Transport} {a a' : Address} {port port' : Nat} {h : Host}
    {e : Probe.Ending} {calls : List SocketCall}
    (hrequested : Requested h.log.levelOf arguments t a port)
    (asks : h.Asks calls (portCheck.run arguments h).2)
    (hcourse : Probe.Course t' a' port' e calls) :
    Reports t a port e (portCheck.run arguments h).1 := by
  obtain ⟨calls', e', asks', hcourse', hreports⟩ := run_of_requested hrequested
  obtain rfl := asks.unique asks'
  obtain rfl := hcourse.ending_unique hcourse'
  exact hreports

end

end PortCheck

open PortCheck in
/-- The tool calls a port of an address available just if it was asked for this port of this address
and its probe took it and gave it back, and in use just if it was asked for it and the call that
decided the probe said so. Whatever ends like one of these verdicts is one on some port; the first
is a success and the second a failure. If the tool was not asked for a port, it makes no request
about sockets. -/
theorem portCheck_verdicts (arguments : List Text) (h : Host) :
    let outcome := portCheck.run arguments h
    (∀ t a port, Available t a port outcome.1 ↔ Requested h.log.levelOf arguments t a port ∧
        ∃ calls, h.Asks calls outcome.2 ∧ Probe.Course t a port (.taken none) calls) ∧
      (∀ t a port, InUse t a port outcome.1 ↔ Requested h.log.levelOf arguments t a port ∧
        ∃ e calls, h.Asks calls outcome.2 ∧ Probe.Course t a port e calls ∧
          e.number? = some Errno.addressInUse) ∧
      (Text.ofString ": available\n" <:+ outcome.1.stdout →
        outcome.1.exitCode = 0 ∧ ∃ t a port, Available t a port outcome.1) ∧
      (Text.ofString ": in use\n" <:+ outcome.1.stdout →
        outcome.1.exitCode = 1 ∧ ∃ t a port, InUse t a port outcome.1) ∧
      ((∀ t a port, ¬ Requested h.log.levelOf arguments t a port) →
        outcome.2.calls = h.calls) := by
  intro outcome
  refine ⟨fun t a port => ⟨fun hline => ?_, ?_⟩, fun t a port => ⟨fun hline => ?_, ?_⟩,
    fun hends => ?_, fun hends => ?_, fun hnone => (run_of_not_requested hnone).2⟩
  · obtain ⟨_, _, _, calls, e, hrequested, asks, hcourse, hreports⟩ :=
      exists_reports fun hsilent => hsilent.1 hline.ends.1
    obtain ⟨⟨rfl, rfl, rfl⟩, rfl⟩ := hreports.available_iff.mp hline
    exact ⟨hrequested, calls, asks, hcourse⟩
  · rintro ⟨hrequested, calls, asks, hcourse⟩
    exact (reports_of_course hrequested asks hcourse).available_iff.mpr ⟨⟨rfl, rfl, rfl⟩, rfl⟩
  · obtain ⟨_, _, _, calls, e, hrequested, asks, hcourse, hreports⟩ :=
      exists_reports fun hsilent => hsilent.2 hline.ends.1
    obtain ⟨⟨rfl, rfl, rfl⟩, hnumber⟩ := hreports.inUse_iff.mp hline
    exact ⟨hrequested, e, calls, asks, hcourse, hnumber⟩
  · rintro ⟨hrequested, e, calls, asks, hcourse, hnumber⟩
    exact (reports_of_course hrequested asks hcourse).inUse_iff.mpr ⟨⟨rfl, rfl, rfl⟩, hnumber⟩
  · obtain ⟨t, a, port, _, _, -, -, -, hreports⟩ :=
      exists_reports fun hsilent => hsilent.1 hends
    obtain ⟨hcode, hline⟩ := hreports.ends.1 hends
    exact ⟨hcode, t, a, port, hline⟩
  · obtain ⟨t, a, port, _, _, -, -, -, hreports⟩ :=
      exists_reports fun hsilent => hsilent.2 hends
    obtain ⟨hcode, hline⟩ := hreports.ends.2 hends
    exact ⟨hcode, t, a, port, hline⟩

/-- With a port and nothing else all addresses are probed for connections. -/
theorem portCheck_verdicts_portOnly :
    let outcome := portCheck.run [Text.ofString "--port", Text.ofString "80"] {}
    Text.ofString ": available\n" <:+ outcome.1.stdout ∧ outcome.1.exitCode = 0 ∧
      PortCheck.Available .tcp Address.unset 80 outcome.1 ∧
      outcome.1.stdout = Text.ofString "tcp *:80: available\n" ∧
      PortCheck.Requested Log.Level.ofUsualName [Text.ofString "--port", Text.ofString "80"] .tcp
        Address.unset 80 ∧
      ∃ calls, Host.Asks {} calls outcome.2 ∧
        Probe.Course .tcp Address.unset 80 (.taken none) calls := by
  intro outcome
  let group : Arguments.Group PortCheck.Key :=
    ⟨PortCheck.define .port "--port" 1 "Port to probe", [Text.ofString "80"], rfl⟩
  obtain ⟨known, hkept, hrun⟩ := run_words (g := group) portCheck_distinct (by decide)
    (by simp [group, portCheck, PortCheck.definitions]) (by decide) (by decide) {}
  have hasked : PortCheck.Asked [group] .tcp Address.unset 80 :=
    { unprivileged := by decide
      port_signed := ⟨Text.ofString "80", rfl, Decimal.int?_eq_some_iff.mp rfl⟩
      port_le := by decide
      transport_eq := rfl
      address_eq := rfl }
  have hcheck : outcome.1 = ToolResult.line (Text.ofString "tcp *:80: available") := by
    change (portCheck.run group.words {}).1 = _
    rw [hrun]
    exact congrArg Prod.fst (PortCheck.answer_of_asked hkept hasked {})
  have hline : PortCheck.Available .tcp Address.unset 80 outcome.1 := by
    rw [hcheck]
    rfl
  obtain ⟨havailable, -, hends, -⟩ := portCheck_verdicts
    [Text.ofString "--port", Text.ofString "80"] {}
  obtain ⟨hrequested, hcalls⟩ := (havailable .tcp Address.unset 80).mp hline
  exact ⟨hline.ends.1, (hends hline.ends.1).1, hline, congrArg ToolResult.stdout hcheck, hrequested,
    hcalls⟩

end Tool

end LocalNet
