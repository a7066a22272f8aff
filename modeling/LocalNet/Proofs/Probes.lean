import LocalNet.Probe
import LocalNet.Proofs.Interfaces
import LocalNet.Proofs.SocketCalls

/-!
# What a probe does and what it reports

A probe makes one attempt to take a port, or two where it may fall back to IPv4. An attempt makes its
requests in a fixed order up to the first that fails, and whatever happens the socket is closed
before the probe ends. The fault of a probe is told by how the last attempt ended.

- `Probe.plan`, `Probe.Attempted`: the requests of an attempt, and the calls that it can make;
- `Probe.Course`: the calls that a probe of an address can make;
- `Probe.Tells`: what a fault tells of the end of an attempt;
- `Probe.calls_of_probe`: the calls of a probe are of these forms and leave no socket open;
- `Probe.fault_of_probe`: what a probe reports, and what is left of it behind any contexts.
-/

namespace LocalNet

/-- The platforms of the library: Linux, wherever its settings, surveys and commands come from, and
the system of which nothing is known. -/
inductive Platform.Known : Platform → Prop
  /-- A Linux system. -/
  | linux (s : LinuxSettings) (source : Source) (runner : Runner) : Known (.linux s source runner)
  /-- A system of which nothing is known. -/
  | generic : Known .generic

theorem Platform.Known.release_eq {p : Platform} (hp : p.Known) : p.release = Host.closeProbe := by
  cases hp <;> rfl

theorem Platform.Known.meansInUse_iff {p : Platform} (hp : p.Known) (number : Errno) :
    p.meansInUse number = true ↔ number = Errno.addressInUse := by
  cases hp <;> exact beq_iff_eq

theorem Transport.ofText?_name (t : Transport) : ofText? (Text.ofString t.name) = some t := by
  cases t <;> rfl

theorem Transport.eq_name_of_ofText? {t : Transport} {text : Text} (h : ofText? text = some t) :
    text = Text.ofString t.name := by
  unfold ofText? at h
  split at h
  · next heq => exact Option.some.inj h ▸ heq
  · split at h
    · next heq => exact Option.some.inj h ▸ heq
    · cases h

namespace Probe

/-! ## Attempts -/

/-- The requests of an attempt to take a port of an address, in order. `dualStack` says whether the
socket is to serve both families. -/
def plan (transport : Transport) (address : Address) (port : Nat) (dualStack : Bool) :
    List SocketRequest :=
  match transport, dualStack with
  | .tcp, false =>
    [.socket address.family .tcp, .reuseAddress, .bind address port, .listen 1]
  | .tcp, true =>
    [.socket address.family .tcp, .reuseAddress, .dualStack, .bind address port, .listen 1]
  | .udp, false =>
    [.socket address.family .udp, .bind address port]
  | .udp, true =>
    [.socket address.family .udp, .dualStack, .bind address port]

/-- The plan of an attempt is to open a socket and to take the steps of the target. -/
theorem plan_eq (t : Target) : plan t.transport t.address t.port t.dualStack =
    .socket t.address.family t.transport :: steps t := by
  obtain ⟨transport, address, port, dualStack, label⟩ := t
  cases transport <;> cases dualStack <;> rfl

/-- A plan opens a socket first, and all other requests are about it. -/
theorem exists_plan_eq (transport : Transport) (address : Address) (port : Nat)
    (dualStack : Bool) : ∃ others, plan transport address port dualStack =
      .socket address.family transport :: others ∧ ∀ r ∈ others, r.uses = true := by
  cases transport <;> cases dualStack <;> exact ⟨_, rfl, by simp [SocketRequest.uses]⟩

/-- How an attempt ends. -/
inductive Ending where
  /-- A request fails with an error number. -/
  | failed (request : SocketRequest) (number : Errno)
  /-- All succeed, and the socket is closed again with some outcome. -/
  | taken (closing : Option Errno)

/-- The calls that an attempt with a plan can make, by how it ends. -/
inductive Attempted (plan : List SocketRequest) : Ending → List SocketCall → Prop
  /-- There is no socket. -/
  | unopened {opening : SocketRequest} {later : List SocketRequest} (number : Errno)
      (hplan : plan = opening :: later) :
    Attempted plan (.failed opening number) [opening.refused number]
  /-- The requests succeed up to one that fails, and the socket is closed. -/
  | refused {opening r : SocketRequest} {done later : List SocketRequest} (number : Errno)
      (closing : Option Errno) (hplan : plan = opening :: done ++ r :: later) :
    Attempted plan (.failed r number)
      ((opening :: done).map SocketRequest.granted ++ [r.refused number, ⟨.close, closing⟩])
  /-- All requests succeed, and the socket is closed. -/
  | taken (closing : Option Errno) :
    Attempted plan (.taken closing)
      (plan.map SocketRequest.granted ++ [⟨.close, closing⟩])

section

variable {transport : Transport} {address : Address} {port : Nat} {dualStack : Bool} {e : Ending}
  {calls : List SocketCall}

/-- An attempt closes the socket that it has opened. -/
theorem Attempted.paired (h : Attempted (plan transport address port dualStack) e calls) :
    SocketCall.Paired calls := by
  obtain ⟨others, hplan, huses⟩ := exists_plan_eq transport address port dualStack
  rw [hplan] at h
  cases h with
  | unopened number heq =>
    obtain ⟨rfl, -⟩ := List.cons.inj heq
    exact SocketCall.paired_refused _ _ number
  | @refused opening r done later number closing heq =>
    rw [List.cons_append] at heq
    obtain ⟨rfl, rfl⟩ := List.cons.inj heq
    -- The refused request is about the socket as well.
    have hcalls : ∀ c ∈ done.map SocketRequest.granted ++ [r.refused number],
        c.request.uses = true := by
      intro c hc
      rcases List.mem_append.mp hc with hc | hc
      · obtain ⟨r', hr', rfl⟩ := List.mem_map.mp hc
        exact huses r' (List.mem_append_left _ hr')
      · rw [List.mem_singleton.mp hc]
        exact huses r (List.mem_append_right _ List.mem_cons_self)
    simpa using SocketCall.paired_session address.family transport closing hcalls
  | taken closing =>
    refine SocketCall.paired_session address.family transport closing fun c hc => ?_
    obtain ⟨r, hr, rfl⟩ := List.mem_map.mp hc
    exact huses r hr

end

/-- An attempt fails and reports the request that failed, or takes the port with the socket open. -/
theorem attempt_cases (t : Target) (h : Host) :
    (∃ r number calls h', attempt t h = (some (requestFault t.label r number), h') ∧
        h.Asks calls h' ∧
        Attempted (plan t.transport t.address t.port t.dualStack) (.failed r number) calls) ∨
      ∃ calls h', attempt t h = (none, h') ∧ h.Asks calls h' ∧
        ∀ closing, Attempted (plan t.transport t.address t.port t.dualStack) (.taken closing)
          (calls ++ [⟨.close, closing⟩]) := by
  rw [plan_eq]
  rcases Host.request_cases (.socket t.address.family t.transport) h with
    ⟨h₁, hopen, asks⟩ | ⟨number, h₁, hopen, asks⟩
  · rcases Host.requestAll_cases (steps t) h₁ with
      ⟨h₂, hsteps, asks'⟩ | ⟨done, r, later, number, h₂, hplan, hsteps, asks'⟩
    · exact .inr ⟨_, h₂, by simp [attempt, hopen, hsteps], asks.trans asks', .taken⟩
    · -- Only here an open socket is left to the attempt.
      have asks'' := (asks.trans asks').trans (Host.asks_request .close h₂)
      refine .inl ⟨r, number, _, (h₂.request .close).2, by simp [attempt, hopen, hsteps], asks'', ?_⟩
      rw [hplan]
      simpa using Attempted.refused number (h₂.request .close).1 (List.cons_append ..).symm
  · -- Without a socket there is nothing to close.
    exact .inl ⟨_, number, _, h₁, by simp [attempt, hopen], asks, .unopened number rfl⟩

/-! ## Probes of an address -/

/-- An address stands for all addresses if it is unset or all its octets are zero. -/
theorem isWildcard_iff (a : Address) : isWildcard a = true ↔ ∀ b ∈ a.octets, b = 0 := by
  rw [isWildcard, Address.isUnspecified]
  cases hunset : a.isUnset with
  | false => simp
  | true =>
    rw [a.isUnset_iff.mp hunset]
    simp [Address.unset]

/-- The calls that a probe of a port of an address can make, by how its last attempt ends. -/
inductive Course (transport : Transport) (a : Address) (port : Nat) :
    Ending → List SocketCall → Prop
  /-- The address itself is tried. -/
  | direct {e : Ending} {calls : List SocketCall} (haddress : ¬ ∀ b ∈ a.octets, b = 0)
      (hcalls : Attempted (plan transport a port false) e calls) :
    Course transport a port e calls
  /-- All addresses of both families are tried, by the IPv6 address of sixteen zeros, which does not
  fail for want of IPv6. -/
  | both {e : Ending} {calls : List SocketCall} (haddress : ∀ b ∈ a.octets, b = 0)
      (hcalls : Attempted (plan transport ⟨List.replicate 16 0, .inr (.inr rfl)⟩ port true) e calls)
      (hfamily : ∀ r, e ≠ .failed r Errno.familyUnsupported) :
    Course transport a port e calls
  /-- Without IPv6 all IPv4 addresses are tried after that, by the address of four zeros. -/
  | fallback {r : SocketRequest} {e : Ending} {calls others : List SocketCall}
      (haddress : ∀ b ∈ a.octets, b = 0)
      (hcalls : Attempted (plan transport ⟨List.replicate 16 0, .inr (.inr rfl)⟩ port true)
        (.failed r Errno.familyUnsupported) calls)
      (hothers : Attempted (plan transport ⟨List.replicate 4 0, .inr (.inl rfl)⟩ port false) e
        others) :
    Course transport a port e (calls ++ others)

theorem Course.paired {transport : Transport} {a : Address} {port : Nat} {e : Ending}
    {calls : List SocketCall} (h : Course transport a port e calls) : SocketCall.Paired calls := by
  cases h with
  | direct _ hcalls => exact hcalls.paired
  | both _ hcalls _ => exact hcalls.paired
  | fallback _ hcalls hothers => exact hcalls.paired.append hothers.paired

@[simp]
theorem code_requestFault (label : Text) (r : SocketRequest) (number : Errno) :
    (requestFault label r number).code = { number } := rfl

/-- A port of an address is not taken and the request that failed is reported, or it is taken with
the socket open. -/
theorem take_cases (transport : Transport) (a : Address) (port : Int) (h : Host) :
    (∃ r number calls h', take transport a port h =
          (some (requestFault (label transport a port) r number), h') ∧ h.Asks calls h' ∧
        Course transport a port.toNat (.failed r number) calls) ∨
      ∃ calls h', take transport a port h = (none, h') ∧ h.Asks calls h' ∧
        ∀ closing, Course transport a port.toNat (.taken closing)
          (calls ++ [⟨.close, closing⟩]) := by
  by_cases hany : isWildcard a = true
  · have hzero := (isWildcard_iff a).mp hany
    rcases attempt_cases ⟨transport, anyV6, port.toNat, true, label transport a port⟩ h with
      ⟨r, number, calls, h₁, hfirst, asks, hcalls⟩ | ⟨calls, h₁, hfirst, asks, hcalls⟩
    · by_cases hnumber : number = Errno.familyUnsupported
      · -- The second attempt decides.
        subst hnumber
        have htake : take transport a port h =
            attempt ⟨transport, anyV4, port.toNat, false, label transport a port⟩ h₁ := by
          simp [take, hany, hfirst]
        rw [htake]
        rcases attempt_cases ⟨transport, anyV4, port.toNat, false, label transport a port⟩ h₁ with
          ⟨r', number, others, h₂, hsecond, asks', hothers⟩ | ⟨others, h₂, hsecond, asks', hothers⟩
        · exact .inl ⟨r', number, _, h₂, hsecond, asks.trans asks', .fallback hzero hcalls hothers⟩
        · refine .inr ⟨_, h₂, hsecond, asks.trans asks', fun closing => ?_⟩
          rw [List.append_assoc]
          exact .fallback hzero hcalls (hothers closing)
      · -- Any other failure of the first attempt is final.
        refine .inl ⟨r, number, calls, h₁, ?_, asks, .both hzero hcalls fun r' heq => ?_⟩
        · simp [take, hany, hfirst, hnumber]
        · exact hnumber (Ending.failed.inj heq).2
    · refine .inr ⟨calls, h₁, ?_, asks, fun closing => .both hzero (hcalls closing) nofun⟩
      simp [take, hany, hfirst]
  · have hset : ¬ ∀ b ∈ a.octets, b = 0 := fun hzero => hany ((isWildcard_iff a).mpr hzero)
    have htake : take transport a port h =
        attempt ⟨transport, a, port.toNat, false, label transport a port⟩ h := by
      simp [take, hany]
    rw [htake]
    rcases attempt_cases ⟨transport, a, port.toNat, false, label transport a port⟩ h with
      ⟨r, number, calls, h₁, htry, asks, hcalls⟩ | ⟨calls, h₁, htry, asks, hcalls⟩
    · exact .inl ⟨r, number, calls, h₁, htry, asks, .direct hset hcalls⟩
    · exact .inr ⟨calls, h₁, htry, asks, fun closing => .direct hset (hcalls closing)⟩

/-! ## Faults -/

/-- What a probe reports on how its last attempt ended. -/
def Ending.fault (label : Text) : Ending → Option Fault
  | .failed r number => some (requestFault label r number)
  | .taken closing =>
    closing.map fun number => Fault.ofErrno .close number (Text.ofString "closing port checker")

/-- The end of an attempt, if the outcome of closing the socket does not count. -/
def Ending.forgiven : Ending → Ending
  | .failed r number => .failed r number
  | .taken _ => .taken none

/-- Whether an attempt takes the port. -/
def Ending.isTaken : Ending → Bool
  | .failed _ _ => false
  | .taken _ => true

/-- The error number that decides how an attempt ends. -/
def Ending.number? : Ending → Option Errno
  | .failed _ number => some number
  | .taken closing => closing

/-- Whether a request is to take the port for the socket. -/
def takesPort : SocketRequest → Bool
  | .bind _ _ | .listen _ => true
  | .socket _ _ | .reuseAddress | .dualStack | .close => false

section

variable {p : Platform} {port : Int}

/-- A probe of an address reports how the last of its attempts ended. -/
theorem check_cases (hp : p.Known) (t : Transport) (a : Address) (hlow : 0 ≤ port)
    (hhigh : port ≤ maxPort) (h : Host) :
    ∃ calls e, h.Asks calls (check p (Text.ofString t.name) a port h).2 ∧
      Course t a port.toNat e calls ∧
      (check p (Text.ofString t.name) a port h).1 = e.fault (label t a port) := by
  have hrange : ¬ (port < 0 ∨ maxPort < port) := by omega
  rcases take_cases t a port h with
    ⟨r, number, calls, h', htake, asks, hcalls⟩ | ⟨calls, h', htake, asks, hcalls⟩
  · have hcheck : check p (Text.ofString t.name) a port h =
        (some (requestFault (label t a port) r number), h') := by
      simp only [check, t.ofText?_name, if_neg hrange, htake]
    rw [hcheck]
    exact ⟨calls, .failed r number, asks, hcalls, rfl⟩
  · -- The platform closes the socket.
    have hcheck : check p (Text.ofString t.name) a port h = h'.closeProbe := by
      simp only [check, t.ofText?_name, if_neg hrange, htake, hp.release_eq]
    rw [hcheck]
    exact ⟨_, .taken (h'.request .close).1, asks.trans (Host.asks_request .close h'),
      hcalls (h'.request .close).1, rfl⟩

/-- The endpoint of a probe of the loopback address. -/
def loopback (port : Int) : Target where
  transport := .tcp
  address := Address.v4 127 0 0 1
  port := port.toNat
  label := Text.ofString "tcp 127.0.0.1:" ++ Decimal.ofInt port

/-- A probe of the loopback address reports how its attempt ended, but not how the socket was
closed. -/
theorem canListen_cases (hlow : 0 ≤ port) (hhigh : port ≤ maxPort) (h : Host) :
    ∃ calls e, h.Asks calls (canListen port h).2 ∧
      Attempted (plan .tcp (Address.v4 127 0 0 1) port.toNat false) e calls ∧
      (canListen port h).1 = ⟨e.isTaken, e.forgiven.fault (loopback port).label⟩ := by
  have hrange : ¬ (port < 0 ∨ maxPort < port) := by omega
  have hattempt := attempt_cases (loopback port) h
  unfold loopback at hattempt
  rcases hattempt with
    ⟨r, number, calls, h', htry, asks, hcalls⟩ | ⟨calls, h', htry, asks, hcalls⟩
  · have hprobe : canListen port h =
        (⟨false, some (requestFault (loopback port).label r number)⟩, h') := by
      simp only [canListen, if_neg hrange, htry, loopback]
    rw [hprobe]
    exact ⟨calls, .failed r number, asks, hcalls, rfl⟩
  · rcases Host.request_cases .close h' with ⟨h'', hclose, asks'⟩ | ⟨number, h'', hclose, asks'⟩
    · have hprobe : canListen port h = (⟨true, none⟩, h'') := by
        simp only [canListen, if_neg hrange, htry, hclose]
      rw [hprobe]
      exact ⟨_, .taken none, asks.trans asks', hcalls none, rfl⟩
    · -- That the socket cannot be closed is recorded in the log only.
      have hprobe : canListen port h = (⟨true, none⟩, h''.record .debug
          (Text.ofString "closing port checker for " ++ (loopback port).label ++
            Text.ofString ": " ++ number.toText)) := by
        simp only [canListen, if_neg hrange, htry, hclose, loopback]
      rw [hprobe]
      exact ⟨_, .taken (some number), (asks.trans asks').record .debug _, hcalls (some number), rfl⟩

end

/-! ## What a fault tells -/

/-- What the fault of a probe tells of the end of its last attempt. -/
structure Tells (e : Ending) (fault : Option Fault) : Prop where
  /-- There is none if the port was taken and the socket closed. -/
  success : fault = none ↔ e = .taken none
  /-- The port is taken by someone else if binding or listening says so. -/
  conflict : fault.map Fault.kind = some .bindConflict ↔
    ∃ r, takesPort r = true ∧ e = .failed r Errno.addressInUse
  /-- The port cannot be taken for any other reason. -/
  refusal : fault.map Fault.kind = some .bind ↔
    ∃ r number, e = .failed r number ∧ ¬ (takesPort r = true ∧ number = Errno.addressInUse)
  /-- The port was taken and the socket not closed. -/
  release : fault.map Fault.kind = some .close ↔ ∃ number, e = .taken (some number)
  /-- The error number is the one of the request that decided. -/
  code : fault.map Fault.code = e.number?.map fun number => { number }
  /-- Kind and code stay behind any contexts, and with them the answer whether the address is in
  use. -/
  wrapped : ∀ f, fault = some f → ∀ contexts : List Text,
    (contexts.foldr Fault.wrap f).kind = f.kind ∧ (contexts.foldr Fault.wrap f).code = f.code ∧
      ∀ q : Platform, q.Known → ((contexts.foldr Fault.wrap f).isAddressInUse q = true ↔
        e.number? = some Errno.addressInUse)

end Probe

namespace Fault

theorem kind_foldr_wrap (contexts : List Text) (f : Fault) :
    (contexts.foldr wrap f).kind = f.kind := by
  induction contexts with
  | nil => rfl
  | cons context contexts ih => exact ih

theorem code_foldr_wrap (contexts : List Text) (f : Fault) :
    (contexts.foldr wrap f).code = f.code := by
  induction contexts with
  | nil => rfl
  | cons context contexts ih => exact ih

/-- A fault with a number of the running system says that an address is in use if the number does. -/
theorem isAddressInUse_iff {q : Platform} (hq : q.Known) {f : Fault} {number : Errno}
    (hcode : f.code = { number }) : f.isAddressInUse q = true ↔ number = Errno.addressInUse := by
  have hnumber : number = Errno.addressInUse → number ≠ 0 := by
    rintro rfl
    decide
  rw [isAddressInUse, hasCode, hcode]
  simpa [hq.meansInUse_iff] using hnumber

end Fault

namespace Probe

/-- Only a request that is to take the port can say that someone else has it. -/
theorem kind_requestFault (label : Text) (r : SocketRequest) (number : Errno) :
    (requestFault label r number).kind =
      if takesPort r = true ∧ number = Errno.addressInUse then .bindConflict else .bind := by
  cases r <;> simp [requestFault, Fault.ofErrno, takesPort]

/-- A fault carries the number that decided how the last attempt ended. -/
theorem code_fault (label : Text) (e : Ending) :
    (e.fault label).map Fault.code = e.number?.map fun number => { number } := by
  rcases e with ⟨r, number⟩ | _ | number <;> rfl

/-- The fault of a probe tells how the last attempt ended. -/
theorem tells_fault (label : Text) (e : Ending) : Tells e (e.fault label) where
  success := by
    rcases e with ⟨r, number⟩ | _ | number <;> simp [Ending.fault]
  conflict := by
    rcases e with ⟨r, number⟩ | _ | number
    · simp only [Ending.fault, Option.map_some, kind_requestFault]
      split <;> simp_all
    · simp [Ending.fault]
    · simp [Ending.fault, Fault.ofErrno]
  refusal := by
    rcases e with ⟨r, number⟩ | _ | number
    · simp only [Ending.fault, Option.map_some, kind_requestFault]
      split <;> simp_all
    · simp [Ending.fault]
    · simp [Ending.fault, Fault.ofErrno]
  release := by
    rcases e with ⟨r, number⟩ | _ | number
    · simp only [Ending.fault, Option.map_some, kind_requestFault]
      split <;> simp
    · simp [Ending.fault]
    · simp [Ending.fault, Fault.ofErrno]
  code := code_fault label e
  wrapped := by
    intro f hf contexts
    refine ⟨Fault.kind_foldr_wrap contexts f, Fault.code_foldr_wrap contexts f, fun q hq => ?_⟩
    have hcode := code_fault label e
    rw [hf] at hcode
    obtain ⟨number, hnumber, hcode⟩ := Option.map_eq_some_iff.mp hcode.symm
    rw [hnumber, Option.some.injEq]
    exact Fault.isAddressInUse_iff hq ((Fault.code_foldr_wrap contexts f).trans hcode.symm)

/-! ## Main results -/

section

variable {p : Platform} {port : Int}

/-- Nothing is asked of the host for a transport without a name here or a port that does not
exist. -/
theorem snd_check_of_unnamed {transport : Text} (a : Address) (h : Host)
    (hout : (∀ t : Transport, transport ≠ Text.ofString t.name) ∨ port < 0 ∨ maxPort < port) :
    (check p transport a port h).2 = h := by
  unfold check
  split
  · rfl
  · next t ht =>
    have hrange := hout.resolve_left fun hname => hname t (Transport.eq_name_of_ofText? ht)
    rw [if_pos hrange]

theorem snd_canListen_of_range (h : Host) (hrange : port < 0 ∨ maxPort < port) :
    (canListen port h).2 = h := by
  rw [canListen, if_pos hrange]

/-- A probe leaves no socket open and closes each one that it opened once, as the last call about
it. For a port that does not exist, or a transport without a name here, it makes no request at all;
otherwise its requests are those of its attempts. -/
theorem calls_of_probe (hp : p.Known) (transport : Text) (a : Address) (port : Int) (h : Host) :
    (∃ calls, h.Asks calls (check p transport a port h).2 ∧ SocketCall.Paired calls ∧
      calls.countP SocketCall.opens = calls.countP SocketCall.closes ∧
      ((∀ t : Transport, transport ≠ Text.ofString t.name) ∨ port < 0 ∨ 65535 < port →
        calls = [] ∧ (check p transport a port h).2 = h) ∧
      ∀ t : Transport, transport = Text.ofString t.name → 0 ≤ port → port ≤ 65535 →
        ∃ e, Course t a port.toNat e calls) ∧
    ∃ calls, h.Asks calls (canListen port h).2 ∧ SocketCall.Paired calls ∧
      calls.countP SocketCall.opens = calls.countP SocketCall.closes ∧
      (port < 0 ∨ 65535 < port → calls = [] ∧ (canListen port h).2 = h) ∧
      (0 ≤ port → port ≤ 65535 →
        ∃ e, Attempted (plan .tcp (Address.v4 127 0 0 1) port.toNat false) e calls) := by
  -- In each half the probe first is of an endpoint that does not exist, and then of one that does.
  constructor
  · by_cases hout : (∀ t : Transport, transport ≠ Text.ofString t.name) ∨ port < 0 ∨ 65535 < port
    · have hsame := snd_check_of_unnamed (p := p) a h hout
      refine ⟨[], hsame.symm ▸ .refl h, SocketCall.paired_nil, rfl, fun _ => ⟨rfl, hsame⟩, ?_⟩
      intro t ht hlow hhigh
      rcases hout with hname | hrange
      · exact absurd ht (hname t)
      · omega
    · simp only [not_or, not_forall, ne_eq, not_not] at hout
      obtain ⟨⟨t, rfl⟩, hlow, hhigh⟩ := hout
      obtain ⟨calls, e, asks, hcalls, -⟩ := check_cases hp t a (by omega) (Int.not_lt.mp hhigh) h
      refine ⟨calls, asks, hcalls.paired, hcalls.paired.countP_eq, ?_, ?_⟩
      · rintro (hname | hrange)
        · exact absurd rfl (hname t)
        · omega
      · intro t' ht' _ _
        -- A transport is told by its name.
        obtain rfl : t = t' := by
          simpa [Transport.ofText?_name] using congrArg Transport.ofText? ht'
        exact ⟨e, hcalls⟩
  · by_cases hrange : port < 0 ∨ 65535 < port
    · have hsame := snd_canListen_of_range h hrange
      refine ⟨[], hsame.symm ▸ .refl h, SocketCall.paired_nil, rfl, fun _ => ⟨rfl, hsame⟩, ?_⟩
      omega
    · obtain ⟨hlow, hhigh⟩ : 0 ≤ port ∧ port ≤ maxPort := by
        unfold maxPort
        omega
      obtain ⟨calls, e, asks, hcalls, -⟩ := canListen_cases hlow hhigh h
      exact ⟨calls, asks, hcalls.paired, hcalls.paired.countP_eq, fun hout => absurd hout hrange,
        fun _ _ => ⟨e, hcalls⟩⟩

/-- A host without IPv6 on which the port is taken and no socket can be closed. -/
def withoutV6 : Host where
  sockets :=
    { socket := [some Errno.familyUnsupported]
      bind := [some Errno.addressInUse]
      close := [some 5] }

theorem calls_of_probe_withoutV6 :
    let calls : List SocketCall :=
      [(SocketRequest.socket .v6 .tcp).refused Errno.familyUnsupported,
        (SocketRequest.socket .v4 .tcp).granted, SocketRequest.reuseAddress.granted,
        (SocketRequest.bind (Address.v4 0 0 0 0) 80).refused Errno.addressInUse, ⟨.close, some 5⟩]
    withoutV6.Asks calls (check .generic (Text.ofString "tcp") Address.unset 80 withoutV6).2 ∧
      SocketCall.Paired calls ∧ ∃ e, Course .tcp Address.unset 80 e calls := by
  obtain ⟨⟨calls, asks, hpaired, -, -, hcourse⟩, -⟩ :=
    calls_of_probe .generic (Text.ofString "tcp") Address.unset 80 withoutV6
  obtain rfl := asks.calls_eq.symm
  exact ⟨asks, hpaired, hcourse .tcp rfl (by decide) (by decide)⟩

/-- The fault of a probe tells at which request the last attempt failed and with which number,
whether or not the socket could be closed after that, and it still does so behind any contexts. A
probe of the loopback address says that the port can be listened at just if its attempt took it. -/
theorem fault_of_probe (hp : p.Known) (t : Transport) (a : Address) (hlow : 0 ≤ port)
    (hhigh : port ≤ 65535) (h : Host) :
    (∃ calls e, h.Asks calls (check p (Text.ofString t.name) a port h).2 ∧
      Course t a port.toNat e calls ∧ Tells e (check p (Text.ofString t.name) a port h).1) ∧
    ∃ calls e, h.Asks calls (canListen port h).2 ∧
      Attempted (plan .tcp (Address.v4 127 0 0 1) port.toNat false) e calls ∧
      (canListen port h).1.value = e.isTaken ∧ Tells e.forgiven (canListen port h).1.fault := by
  constructor
  · obtain ⟨calls, e, asks, hcalls, hfault⟩ := check_cases hp t a hlow hhigh h
    refine ⟨calls, e, asks, hcalls, ?_⟩
    rw [hfault]
    exact tells_fault (label t a port) e
  · obtain ⟨calls, e, asks, hcalls, hanswer⟩ := canListen_cases hlow hhigh h
    refine ⟨calls, e, asks, hcalls, ?_, ?_⟩
    · rw [hanswer]
    · rw [hanswer]
      exact tells_fault (loopback port).label e.forgiven

theorem fault_of_probe_withoutV6 :
    ∃ e, Tells e (check .generic (Text.ofString "tcp") Address.unset 80 withoutV6).1 ∧
      Course .tcp Address.unset 80 e
        [(SocketRequest.socket .v6 .tcp).refused Errno.familyUnsupported,
          (SocketRequest.socket .v4 .tcp).granted, SocketRequest.reuseAddress.granted,
          (SocketRequest.bind (Address.v4 0 0 0 0) 80).refused Errno.addressInUse,
          ⟨.close, some 5⟩] ∧
      ((check .generic (Text.ofString "tcp") Address.unset 80 withoutV6).1.map Fault.kind) =
        some .bindConflict ∧
      e.number? = some Errno.addressInUse := by
  obtain ⟨⟨calls, e, asks, hcalls, htells⟩, -⟩ :=
    fault_of_probe .generic .tcp Address.unset (by decide : (0 : Int) ≤ 80) (by decide) withoutV6
  obtain rfl := asks.calls_eq.symm
  have hkind : ((check .generic (Text.ofString "tcp") Address.unset 80 withoutV6).1.map
      Fault.kind) = some .bindConflict := rfl
  obtain ⟨r, -, rfl⟩ := htells.conflict.mp hkind
  exact ⟨_, htells, hcalls, hkind, rfl⟩

end

end Probe

end LocalNet
