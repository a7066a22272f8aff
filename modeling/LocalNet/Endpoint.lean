import LocalNet.Fault

/-!
# Endpoints

An endpoint is a host and a port with a colon between them. A host that contains colons stands in
brackets, and brackets stand nowhere else.

- `Endpoint.split`: the host and the port, or the reason why there are none;
- `Endpoint.parts`: the same as a record in which nothing is left open;
- `Endpoint.host?`: the host of a text that may lack a port;
- `Endpoint.join`: the text of a host and a port.
-/

namespace LocalNet

/-- A host and a port, both as texts. -/
structure Endpoint where
  /-- The host, without brackets. -/
  host : Text
  /-- The port. -/
  port : Text
deriving DecidableEq

namespace Endpoint

/-- Why a text is not an endpoint. -/
inductive Refusal where
  /-- There is no port. -/
  | missingPort
  /-- A host with colons stands without brackets. -/
  | tooManyColons
  /-- A bracket is opened and not closed. -/
  | missingBracket
  /-- An opening bracket stands elsewhere than at the start. -/
  | unexpectedOpen
  /-- A closing bracket stands elsewhere than before the last colon. -/
  | unexpectedClose
deriving DecidableEq

/-- The wording of a refusal. -/
def Refusal.reason : Refusal → String
  | .missingPort => "missing port in address"
  | .tooManyColons => "too many colons in address"
  | .missingBracket => "missing ']' in address"
  | .unexpectedOpen => "unexpected '[' in address"
  | .unexpectedClose => "unexpected ']' in address"

/-- The fault of a refused text. -/
def Refusal.fault (t : Text) (r : Refusal) : Fault :=
  { kind := .parse
    message := Text.ofString "address " ++ t ++ Text.ofString ": " ++ Text.ofString r.reason }

/-- The endpoint of a host and a port, if neither holds an opening bracket and there is no closing
one in `closed`. -/
def ofParts (host port closed : Text) : Except Refusal Endpoint :=
  if (host ++ port).contains '['.toUInt8 then .error .unexpectedOpen
  else if closed.contains ']'.toUInt8 then .error .unexpectedClose
  else .ok ⟨host, port⟩

/-- Splits a text that follows an opening bracket. -/
def splitBracketed (t : Text) : Except Refusal Endpoint :=
  match Text.cutFirst? ']'.toUInt8 t with
  | none => .error .missingBracket
  | some (_, []) => .error .missingPort
  | some (host, c :: port) =>
    if c ≠ ':'.toUInt8 then .error .missingPort
    else if port.contains ':'.toUInt8 then .error .tooManyColons
    else ofParts host port port

/-- Splits a text into its host and its port. -/
def split (t : Text) : Except Refusal Endpoint :=
  match Text.cutLast? ':'.toUInt8 t with
  | none => .error .missingPort
  | some (host, port) =>
    if t.head? = some '['.toUInt8 then splitBracketed t.tail
    else if host.contains ':'.toUInt8 then .error .tooManyColons
    else ofParts host port t

/-- What is reported on a text: its host and its port, or why it has none. What does not apply is
empty. -/
structure Parts where
  /-- The host, without brackets. -/
  host : Text := []
  /-- The port. -/
  port : Text := []
  /-- The wording of the refusal. -/
  reason : Text := []
  /-- The fault of the refusal. -/
  fault : Option Fault := none
deriving DecidableEq

/-- Splits a text and words the refusal, if there is one. -/
def parts (t : Text) : Parts :=
  match split t with
  | .ok e => { host := e.host, port := e.port }
  | .error r => { reason := Text.ofString r.reason, fault := some (r.fault t) }

/-- Whether a text was refused because it has no port. -/
def Parts.missingPort (p : Parts) : Bool :=
  p.reason == Text.ofString Refusal.missingPort.reason

/-- A text without the pair of brackets around it, if there is one. -/
def dropBrackets (t : Text) : Text :=
  if 2 ≤ t.length ∧ t.head? = some '['.toUInt8 ∧ t.getLast? = some ']'.toUInt8 then
    t.tail.dropLast
  else t

/-- The host of a text with or without a port. A text without a port is the host itself, less the
brackets around it. -/
def host? (t : Text) : Except Refusal Text :=
  match split t with
  | .ok endpoint => .ok endpoint.host
  | .error .missingPort => .ok (dropBrackets t)
  | .error refusal => .error refusal

/-- The text of an endpoint. -/
def join (e : Endpoint) : Text :=
  if e.host.contains ':'.toUInt8 then
    Text.ofString "[" ++ e.host ++ Text.ofString "]:" ++ e.port
  else e.host ++ Text.ofString ":" ++ e.port

end Endpoint

end LocalNet
