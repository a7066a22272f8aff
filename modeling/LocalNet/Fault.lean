import LocalNet.Fault.Errno

/-!
# Faults

What an operation reports when it fails: the kind of failure, the system's error number if a system
request caused it, and a message. A caller may put its own context before the message with
`Fault.wrap`; kind and number stay, so that they can still be asked for after any number of wraps.
-/

namespace LocalNet

/-- The list from which a code takes its meaning. -/
inductive CodeDomain where
  /-- The error numbers of the running system. -/
  | system
  /-- The portable error numbers. -/
  | generic
  /-- The error numbers of formatted streams. -/
  | stream
deriving DecidableEq

/-- An error number and the list that it belongs to. The number 0 says that there is no error. -/
structure SystemCode where
  /-- The list that the number belongs to. -/
  domain : CodeDomain := .system
  /-- The number. -/
  number : Errno := 0
deriving DecidableEq

/-- The text of a code. -/
def SystemCode.toText (c : SystemCode) : Text :=
  match c.domain with
  | .system | .generic => c.number.toText
  | .stream => Text.ofString (if c.number = 1 then "iostream error" else "Unknown error")

/-- The kinds of failure. -/
inductive Fault.Kind where
  /-- No failure. -/
  | none
  /-- A question to the system about interfaces or addresses failed. -/
  | query
  /-- The system has no interfaces. -/
  | noInterfaces
  /-- An entry is not an address with a mask. -/
  | shape
  /-- A text is not the address, network or endpoint that it should be. -/
  | parse
  /-- The address to probe makes no sense. -/
  | transport
  /-- The address and port are taken. -/
  | bindConflict
  /-- A probe failed for another reason. -/
  | bind
  /-- The release of a probe failed. -/
  | close
  /-- It is not known whether a capability is held. -/
  | capability
  /-- No configuration says whether an address is static. -/
  | noStaticInfo
  /-- The platform cannot do this. -/
  | unsupported
  /-- A file could not be read or written. -/
  | io
  /-- A kind without a name. -/
  | unknown
deriving DecidableEq

/-- The name of a kind. -/
def Fault.Kind.name : Fault.Kind → String
  | .none => "none"
  | .query => "query"
  | .noInterfaces => "no_interfaces"
  | .shape => "shape"
  | .parse => "parse"
  | .transport => "transport"
  | .bindConflict => "bind_conflict"
  | .bind => "bind"
  | .close => "close"
  | .capability => "capability"
  | .noStaticInfo => "no_static_ip_info"
  | .unsupported => "unsupported"
  | .io => "io"
  | .unknown => "unknown"

/-- A report on a failure. The kind `none` makes it a report on a success. -/
structure Fault where
  /-- The kind of failure. -/
  kind : Fault.Kind
  /-- The code of the system request that failed, if one did. -/
  code : SystemCode := {}
  /-- What happened. -/
  message : Text
deriving DecidableEq

namespace Fault

/-- The fault that a failed system request causes: its message is the context and the text of the
number. -/
def ofErrno (kind : Kind) (number : Errno) (context : Text) : Fault :=
  { kind
    code := { number }
    message := context ++ Text.ofString ": " ++ number.toText }

/-- Whether the report is on a success. -/
def isOk (f : Fault) : Bool :=
  f.kind == .none

/-- Whether a system code is attached. -/
def hasCode (f : Fault) : Bool :=
  f.code.number != 0

/-- The same fault with a context before its message. -/
def wrap (context : Text) (f : Fault) : Fault :=
  { f with message := context ++ Text.ofString ": " ++ f.message }

/-- One line about the fault: kind, message, and the text of the code unless the message holds it
already. -/
def toText (f : Fault) : Text :=
  if f.isOk then Text.ofString "ok"
  else
    let summary := Text.ofString f.kind.name ++ Text.ofString ": " ++ f.message
    if f.hasCode && !Text.holds f.code.toText f.message then
      summary ++ Text.ofString " (" ++ f.code.toText ++ Text.ofString ")"
    else summary

end Fault

/-- A yes or no that may also be unknown. The answer means nothing if there is a fault. -/
structure Check where
  /-- The answer. -/
  value : Bool
  /-- Why there is no answer. -/
  fault : Option Fault := none
deriving DecidableEq

end LocalNet
