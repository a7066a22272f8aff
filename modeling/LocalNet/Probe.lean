import LocalNet.Platform

/-!
# Probes of ports

A probe takes a local port and gives it back at once, to find out whether it could be taken. The
socket of a probe is closed before the probe ends.

- `Probe.attempt`: opens a socket and takes the port;
- `Probe.canListen`: whether the loopback address can be listened at;
- `Probe.check`: whether a port of an address, or of all addresses, can be taken.
-/

namespace LocalNet.Probe

/-- The largest port. -/
def maxPort : Int := 65535

/-- The number of connections that may queue at a probe. -/
def backlog : Nat := 1

/-- A local endpoint to take. -/
structure Target where
  /-- The transport. -/
  transport : Transport
  /-- The address. -/
  address : Address
  /-- The port. -/
  port : Nat
  /-- Whether the socket is to serve both families. -/
  dualStack : Bool := false
  /-- How messages call the endpoint. -/
  label : Text

/-- The fault of a port that does not exist. -/
def portFault (port : Int) : Fault :=
  { kind := .transport, message := Text.ofString "invalid port " ++ Decimal.ofInt port }

/-- The fault of a request that failed. Only binding and listening tell a port that is taken from
other failures. -/
def requestFault (label : Text) (r : SocketRequest) (number : Errno) : Fault :=
  let kind :=
    match r with
    | .bind _ _ | .listen _ => if number = Errno.addressInUse then .bindConflict else .bind
    | _ => .bind
  Fault.ofErrno kind number (Text.ofString r.name ++ Text.ofString " " ++ label)

/-- The requests that take an endpoint with an open socket. -/
def steps (t : Target) : List SocketRequest :=
  (if t.transport = .tcp then [.reuseAddress] else [])
    ++ (if t.dualStack then [.dualStack] else [])
    ++ [.bind t.address t.port]
    ++ (if t.transport = .tcp then [.listen backlog] else [])

/-- Opens a socket and takes an endpoint with it. The socket is closed again if that fails, whatever
closing it says. -/
def attempt (t : Target) (h : Host) : Option Fault × Host :=
  let opening := SocketRequest.socket t.address.family t.transport
  match h.request opening with
  | (some number, h) => (some (requestFault t.label opening number), h)
  | (none, h) =>
    match h.requestAll (steps t) with
    | (none, h) => (none, h)
    | (some (r, number), h) => (some (requestFault t.label r number), (h.request .close).2)

/-- Whether a port of the loopback address can be listened at. That the socket cannot be closed
again does not change the answer and is logged. -/
def canListen (port : Int) (h : Host) : Check × Host :=
  if port < 0 ∨ maxPort < port then (⟨false, some (portFault port)⟩, h)
  else
    let label := Text.ofString "tcp 127.0.0.1:" ++ Decimal.ofInt port
    let target : Target :=
      { transport := .tcp, address := Address.v4 127 0 0 1, port := port.toNat, label }
    match attempt target h with
    | (some fault, h) => (⟨false, some fault⟩, h)
    | (none, h) =>
      match h.request .close with
      | (some number, h) =>
        (⟨true, none⟩, h.record .debug
          (Text.ofString "closing port checker for " ++ label ++ Text.ofString ": "
            ++ number.toText))
      | (none, h) => (⟨true, none⟩, h)

/-- The IPv4 address that stands for all addresses. -/
def anyV4 : Address := Address.v4 0 0 0 0

/-- The IPv6 address that stands for all addresses. -/
def anyV6 : Address := Address.ofOctets (List.replicate 16 0)

/-- Whether an address stands for all addresses. -/
def isWildcard (a : Address) : Bool :=
  a.isUnset || a.isUnspecified

/-- How messages call an endpoint: an IPv6 address stands in brackets, and nothing stands for the
IPv4 wildcard. -/
def label (transport : Transport) (a : Address) (port : Int) : Text :=
  let host :=
    if a.isV6 then Text.ofString "[" ++ a.toText ++ Text.ofString "]"
    else if isWildcard a then [] else a.toText
  Text.ofString transport.name ++ Text.ofString " " ++ host ++ Text.ofString ":"
    ++ Decimal.ofInt port

/-- Takes a port of an address. All addresses are first tried with a socket for both families, and
with one for IPv4 if the host has no IPv6. -/
def take (transport : Transport) (a : Address) (port : Int) (h : Host) : Option Fault × Host :=
  let label := label transport a port
  if isWildcard a then
    match attempt ⟨transport, anyV6, port.toNat, true, label⟩ h with
    | (some fault, h) =>
      if fault.code.number = Errno.familyUnsupported then
        attempt ⟨transport, anyV4, port.toNat, false, label⟩ h
      else (some fault, h)
    | (none, h) => (none, h)
  else attempt ⟨transport, a, port.toNat, false, label⟩ h

/-- Checks that a port of an address can be taken, and gives it back. Ports of a transport that has
no name here are not checked. -/
def check (p : Platform) (transport : Text) (a : Address) (port : Int) (h : Host) :
    Option Fault × Host :=
  match Transport.ofText? transport with
  | none => (none, h)
  | some transport =>
    if port < 0 ∨ maxPort < port then (some (portFault port), h)
    else
      match take transport a port h with
      | (some fault, h) => (some fault, h)
      | (none, h) => p.release h

end LocalNet.Probe
