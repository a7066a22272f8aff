import LocalNet.Address
import LocalNet.Fault.Errno

/-!
# Sockets

The requests that a probe makes of a socket, and a script that answers them. A script holds a queue
of outcomes for each kind of request; a request that finds its queue empty succeeds.
-/

namespace LocalNet

/-- The transports that a port belongs to. -/
inductive Transport where
  /-- A connection, which a socket listens for. -/
  | tcp
  /-- Single datagrams. -/
  | udp
deriving DecidableEq

/-- The name of a transport. -/
def Transport.name : Transport → String
  | .tcp => "tcp"
  | .udp => "udp"

/-- The transport with a given name. -/
def Transport.ofText? (t : Text) : Option Transport :=
  if t = Text.ofString Transport.tcp.name then some .tcp
  else if t = Text.ofString Transport.udp.name then some .udp
  else none

/-- A request about the socket of a probe. -/
inductive SocketRequest where
  /-- Open the socket. -/
  | socket (family : Family) (transport : Transport)
  /-- Let it take an address that a closed connection still lingers on. -/
  | reuseAddress
  /-- Let it serve IPv4 as well as IPv6. -/
  | dualStack
  /-- Give it a local address and port. -/
  | bind (address : Address) (port : Nat)
  /-- Let it wait for connections, of which so many may queue. -/
  | listen (backlog : Nat)
  /-- Close it. -/
  | close
deriving DecidableEq

/-- The name of the system call that makes a request. -/
def SocketRequest.name : SocketRequest → String
  | .socket _ _ => "socket"
  | .reuseAddress | .dualStack => "setsockopt"
  | .bind _ _ => "bind"
  | .listen _ => "listen"
  | .close => "close"

/-- A request that was made and its outcome: nothing, or why it failed. -/
structure SocketCall where
  /-- The request. -/
  request : SocketRequest
  /-- The error number of a failed request. -/
  fault : Option Errno := none
deriving DecidableEq

/-- The number of sockets that were opened and not closed since. Whatever the outcome, a request to
close a socket takes it away. -/
def SocketCall.countOpen (calls : List SocketCall) : Nat :=
  (calls.filter fun c => c.request.name == "socket" && c.fault.isNone).length
    - (calls.filter fun c => c.request == .close).length

/-- The outcomes of the coming requests, a queue for each kind. -/
structure SocketScript where
  /-- Outcomes of opening. -/
  socket : List (Option Errno) := []
  /-- Outcomes of setting an option. -/
  setOption : List (Option Errno) := []
  /-- Outcomes of binding. -/
  bind : List (Option Errno) := []
  /-- Outcomes of listening. -/
  listen : List (Option Errno) := []
  /-- Outcomes of closing. -/
  close : List (Option Errno) := []

/-- The script that gives the outcomes of calls once more. -/
def SocketScript.ofCalls (calls : List SocketCall) : SocketScript where
  socket := outcomes "socket"
  setOption := outcomes "setsockopt"
  bind := outcomes "bind"
  listen := outcomes "listen"
  close := outcomes "close"
where
  /-- The outcomes of the calls of one kind. -/
  outcomes (name : String) : List (Option Errno) :=
    (calls.filter (·.request.name == name)).map SocketCall.fault

/-- The outcome of a request, and the script after it. -/
def SocketScript.answer (s : SocketScript) : SocketRequest → Option Errno × SocketScript
  | .socket _ _ => (s.socket.head?.join, { s with socket := s.socket.tail })
  | .reuseAddress | .dualStack => (s.setOption.head?.join, { s with setOption := s.setOption.tail })
  | .bind _ _ => (s.bind.head?.join, { s with bind := s.bind.tail })
  | .listen _ => (s.listen.head?.join, { s with listen := s.listen.tail })
  | .close => (s.close.head?.join, { s with close := s.close.tail })

end LocalNet
