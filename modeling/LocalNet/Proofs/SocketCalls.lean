import LocalNet.Host

/-!
# Calls about sockets

A host answers requests about sockets by its script and keeps every call that it was asked for. At
most one socket is open at a time, so a call is about the socket that was opened last.

- `SocketScript.Answers`: a script gives the outcomes of a row of calls;
- `Host.Asks`: a host has answered a row of calls, and nothing else of it has changed but the log;
- `Host.requestAll_cases`: requests are made until one fails;
- `SocketCall.Paired`: every socket that is opened is closed again, once and at the end.
-/

namespace LocalNet

/-- The call of a request that succeeds. -/
def SocketRequest.granted (r : SocketRequest) : SocketCall :=
  ⟨r, none⟩

/-- The call of a request that fails. -/
def SocketRequest.refused (r : SocketRequest) (number : Errno) : SocketCall :=
  ⟨r, some number⟩

/-- Whether a request is about the socket that is open and leaves it open. -/
def SocketRequest.uses : SocketRequest → Bool
  | .reuseAddress | .dualStack | .bind _ _ | .listen _ => true
  | .socket _ _ | .close => false

/-! ## Answers of a script -/

/-- The script gives the outcomes of the calls one after the other, and another script is left. -/
inductive SocketScript.Answers : SocketScript → List SocketCall → SocketScript → Prop
  /-- Without a call nothing is used up. -/
  | nil (s : SocketScript) : Answers s [] s
  /-- The first call has the outcome that the script gives it, and what is left answers the
  others. -/
  | cons {s s' : SocketScript} {calls : List SocketCall} (r : SocketRequest)
      (hothers : Answers (s.answer r).2 calls s') :
    Answers s (⟨r, (s.answer r).1⟩ :: calls) s'

theorem SocketScript.Answers.append {s s' s'' : SocketScript} {calls others : List SocketCall}
    (h : s.Answers calls s') (hothers : s'.Answers others s'') :
    s.Answers (calls ++ others) s'' := by
  induction h with
  | nil s => exact hothers
  | cons r _ ih => exact .cons r (ih hothers)

/-- A host has answered some calls by its script. It has kept them behind the older ones, and apart
from the log nothing else of it has changed. -/
structure Host.Asks (h : Host) (calls : List SocketCall) (h' : Host) : Prop where
  /-- The outcomes are those of the script. -/
  answers : h.sockets.Answers calls h'.sockets
  /-- The calls are kept. -/
  calls_eq : h'.calls = h.calls ++ calls
  /-- Everything else stays. -/
  others_eq : h' = { h with sockets := h'.sockets, calls := h'.calls, log := h'.log }

namespace Host

variable {h h' h'' : Host} {calls others : List SocketCall}

theorem Asks.refl (h : Host) : h.Asks [] h where
  answers := .nil h.sockets
  calls_eq := (List.append_nil h.calls).symm
  others_eq := rfl

theorem Asks.trans (first : h.Asks calls h') (second : h'.Asks others h'') :
    h.Asks (calls ++ others) h'' where
  answers := first.answers.append second.answers
  calls_eq := by rw [second.calls_eq, first.calls_eq, List.append_assoc]
  others_eq := by
    rw [second.others_eq, first.others_eq]

/-- What a host has asked for can be seen from its calls. -/
theorem Asks.unique (asks : h.Asks calls h') (asks' : h.Asks others h') : calls = others :=
  List.append_cancel_left (asks.calls_eq.symm.trans asks'.calls_eq)

/-- The log of a host does not matter. -/
theorem Asks.of_log {log : Log} (asks : Host.Asks { h with log } calls h') : h.Asks calls h' where
  answers := asks.answers
  calls_eq := asks.calls_eq
  others_eq := asks.others_eq

/-- A record in the log is no request. -/
theorem Asks.record (asks : h.Asks calls h') (level : Log.Level) (message : Text) :
    h.Asks calls (h'.record level message) where
  answers := asks.answers
  calls_eq := asks.calls_eq
  others_eq := by
    rw [asks.others_eq]
    rfl

theorem asks_request (r : SocketRequest) (h : Host) :
    h.Asks [⟨r, (h.request r).1⟩] (h.request r).2 where
  answers := .cons r (.nil _)
  calls_eq := rfl
  others_eq := rfl

/-- A request succeeds or fails, and the call says so. -/
theorem request_cases (r : SocketRequest) (h : Host) :
    (∃ h', h.request r = (none, h') ∧ h.Asks [r.granted] h') ∨
      ∃ number h', h.request r = (some number, h') ∧ h.Asks [r.refused number] h' := by
  have asks := asks_request r h
  generalize h.request r = answer at asks
  obtain ⟨_ | number, h'⟩ := answer
  · exact .inl ⟨h', rfl, asks⟩
  · exact .inr ⟨number, h', rfl, asks⟩

/-- Requests are made until one fails: all succeed, or some do and the next one does not. -/
theorem requestAll_cases (rs : List SocketRequest) (h : Host) :
    (∃ h', h.requestAll rs = (none, h') ∧ h.Asks (rs.map SocketRequest.granted) h') ∨
      ∃ done r later number h', rs = done ++ r :: later ∧
        h.requestAll rs = (some (r, number), h') ∧
        h.Asks (done.map SocketRequest.granted ++ [r.refused number]) h' := by
  induction rs generalizing h with
  | nil => exact .inl ⟨h, rfl, .refl h⟩
  | cons r rs ih =>
    rcases request_cases r h with ⟨h₁, hr, asks⟩ | ⟨number, h₁, hr, asks⟩
    · -- The others are asked of the host that the first request leaves.
      have hall : h.requestAll (r :: rs) = h₁.requestAll rs := by rw [requestAll, hr]
      rw [hall]
      rcases ih h₁ with ⟨h₂, hrs, asks'⟩ | ⟨done, r', later, number, h₂, rfl, hrs, asks'⟩
      · exact .inl ⟨h₂, hrs, asks.trans asks'⟩
      · exact .inr ⟨r :: done, r', later, number, h₂, rfl, hrs, asks.trans asks'⟩
    · -- The first request fails, and the others are never made.
      refine .inr ⟨[], r, rs, number, h₁, rfl, ?_, asks⟩
      rw [requestAll, hr]

end Host

/-! ## Opening and closing -/

namespace SocketCall

/-- Whether a socket is open after a call, if `isOpen` says whether one was before it. There is no
answer if a second socket is asked for, or if a call has no open socket to be about. Closing takes
the socket away whatever its outcome. -/
def next (isOpen : Bool) (c : SocketCall) : Option Bool :=
  match c.request, isOpen with
  | .socket _ _, false => some c.fault.isNone
  | .socket _ _, true => none
  | .close, true => some false
  | _, true => some true
  | _, false => none

/-- The calls open sockets one after the other and close each of them once, as the last call about
it. No socket is open before or after them. -/
def Paired (calls : List SocketCall) : Prop :=
  calls.foldlM next false = some false

/-- Whether a call has opened a socket. -/
def opens (c : SocketCall) : Bool :=
  match c.request with
  | .socket _ _ => c.fault.isNone
  | _ => false

/-- Whether a call closes a socket. -/
def closes (c : SocketCall) : Bool :=
  c.request == .close

/-- A call changes the number of open sockets by what it opens and closes. -/
theorem next_count {isOpen isOpen' : Bool} {c : SocketCall} (h : next isOpen c = some isOpen') :
    isOpen.toNat + c.opens.toNat = isOpen'.toNat + c.closes.toNat := by
  obtain ⟨request, fault⟩ := c
  unfold next at h
  split at h <;> cases h
  · next _ _ hrequest =>
    obtain rfl : request = _ := hrequest
    cases fault <;> rfl
  · next hrequest =>
    obtain rfl : request = _ := hrequest
    rfl
  · next hsocket hclose =>
    -- The requests that are left neither open a socket nor close one.
    cases request with
    | socket family transport => exact (hsocket family transport rfl).elim
    | close => exact (hclose rfl).elim
    | reuseAddress | dualStack | bind _ _ | listen _ => rfl

/-- So does a row of calls. -/
theorem foldlM_next_count {isOpen isOpen' : Bool} {calls : List SocketCall}
    (h : calls.foldlM next isOpen = some isOpen') :
    isOpen.toNat + calls.countP opens = isOpen'.toNat + calls.countP closes := by
  induction calls generalizing isOpen with
  | nil =>
    obtain rfl := Option.some.inj h
    rfl
  | cons c calls ih =>
    rw [List.foldlM_cons] at h
    obtain ⟨between, hc, hcalls⟩ := Option.bind_eq_some_iff.mp h
    have hfirst := next_count hc
    have hothers := ih hcalls
    have hopens : (c :: calls).countP opens = calls.countP opens + c.opens.toNat := by
      rw [List.countP_cons]
      cases c.opens <;> rfl
    have hcloses : (c :: calls).countP closes = calls.countP closes + c.closes.toNat := by
      rw [List.countP_cons]
      cases c.closes <;> rfl
    omega

/-- Paired calls close as many sockets as they open. -/
theorem Paired.countP_eq {calls : List SocketCall} (h : Paired calls) :
    calls.countP opens = calls.countP closes := by
  simpa using foldlM_next_count h

/-- Calls about the open socket leave it open. -/
theorem foldlM_next_of_uses {calls : List SocketCall} (h : ∀ c ∈ calls, c.request.uses = true) :
    calls.foldlM next true = some true := by
  induction calls with
  | nil => rfl
  | cons c calls ih =>
    obtain ⟨hc, hcalls⟩ := List.forall_mem_cons.mp h
    have hnext : next true c = some true := by
      obtain ⟨request, fault⟩ := c
      cases request with
      | socket _ _ | close => exact absurd hc Bool.false_ne_true
      | reuseAddress | dualStack | bind _ _ | listen _ => rfl
    rw [List.foldlM_cons, hnext]
    exact ih hcalls

theorem paired_nil : Paired [] := rfl

/-- A socket that cannot be opened need not be closed. -/
theorem paired_refused (family : Family) (transport : Transport) (number : Errno) :
    Paired [(SocketRequest.socket family transport).refused number] := rfl

/-- A socket is opened, used and closed. -/
theorem paired_session (family : Family) (transport : Transport) (closing : Option Errno)
    {calls : List SocketCall} (h : ∀ c ∈ calls, c.request.uses = true) :
    Paired ((SocketRequest.socket family transport).granted :: calls ++ [⟨.close, closing⟩]) := by
  unfold Paired
  rw [List.foldlM_append]
  -- Opening leaves one socket, which the calls between use and the last call takes away.
  change ((calls.foldlM next true).bind fun isOpen => [⟨.close, closing⟩].foldlM next isOpen) = _
  rw [foldlM_next_of_uses h]
  rfl

theorem Paired.append {calls others : List SocketCall} (h : Paired calls) (hothers : Paired others) :
    Paired (calls ++ others) := by
  unfold Paired at *
  rw [List.foldlM_append, h]
  exact hothers

end SocketCall

end LocalNet
