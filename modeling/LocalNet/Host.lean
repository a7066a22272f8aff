import LocalNet.Host.Command
import LocalNet.Host.File
import LocalNet.Host.Socket
import LocalNet.Log
import LocalNet.Numeral

/-!
# Hosts

A host is the operating system as the library sees it: for every request that the library can make,
the host says what the answer is. Requests that change something change the host, and the host keeps
the socket requests and the log records in the order in which they were made.

- `Host.readWhole`, `Host.writeWhole`: the content of a file, and its replacement;
- `Host.readSmall`, `Host.readInt32`: the start of a file and the integer in it;
- `Host.request`, `Host.requestAll`: requests about a socket;
- `Host.execute`: the run of a command.
-/

namespace LocalNet

/-- An address as the system keeps it for a socket. -/
inductive SocketAddress where
  /-- An IPv4 address. -/
  | inet (octets : Vector UInt8 4)
  /-- An IPv6 address. -/
  | inet6 (octets : Vector UInt8 16)
  /-- An address of another family. -/
  | other (family : Nat)
deriving DecidableEq

/-- The octets of an IPv4 or IPv6 address. -/
def SocketAddress.octets? : SocketAddress → Option (List UInt8)
  | .inet octets => some octets.toList
  | .inet6 octets => some octets.toList
  | .other _ => none

/-- A record in the system's list of addresses. -/
structure AddressRecord where
  /-- The name of the interface, or a label that starts with it. -/
  label : Option Text := none
  /-- The address. -/
  address : Option SocketAddress := none
  /-- The mask of the address. -/
  mask : Option SocketAddress := none
deriving DecidableEq

/-- The operating system as the library sees it. -/
structure Host where
  /-- The files. -/
  files : Files := []
  /-- The fault of making a file that does not exist. -/
  createFault : Option Errno := none
  /-- The numbers and names of the links, or why they cannot be listed. -/
  links : Except Errno (List (Nat × Text)) := .ok []
  /-- The addresses of all links, or why they cannot be listed. -/
  addresses : Except Errno (List AddressRecord) := .ok []
  /-- The effective user. -/
  userId : Nat := 1000
  /-- The effective capabilities, or why they cannot be read. -/
  capabilities : Except Errno UInt64 := .ok 0
  /-- The outcomes of the coming socket requests. -/
  sockets : SocketScript := {}
  /-- The socket requests that were made, oldest first. -/
  calls : List SocketCall := []
  /-- The answers to the requests of the coming runs. -/
  command : CommandScript := {}
  /-- The log. -/
  log : Log := {}

namespace Host

/-! ## Files -/

/-- The number of octets for which a reader of a whole file asks at once. -/
def chunkSize : Nat := 4096

/-- Adds a record to the log. -/
def record (level : Log.Level) (message : Text) (h : Host) : Host :=
  { h with log := h.log.record level message }

/-- The file at a path, if it can be opened for reading. -/
def openForReading (path : Text) (h : Host) : Except Errno File :=
  match h.files.find? path.untilNul with
  | none => .error Errno.noEntry
  | some file =>
    match file.readOpenFault with
    | some number => .error number
    | none => .ok file

/-- The emptied file at a path, made if there is none, if it can be opened for writing. -/
def openForWriting (path : Text) (h : Host) : Except Errno File :=
  match h.files.find? path.untilNul with
  | none =>
    match h.createFault with
    | some number => .error number
    | none => .ok {}
  | some file =>
    match file.writeOpenFault with
    | some number => .error number
    | none => .ok { file with content := [] }

/-- Puts a file at a path. -/
def putFile (path : Text) (file : File) (h : Host) : Host :=
  { h with files := h.files.insert path.untilNul file }

/-- Reads a file from its start to its end. What was read before a fault is kept. A missing path is
an invalid argument. -/
def readWhole (path : Option Text) (h : Host) : Stream.Contents × Host :=
  match path with
  | none => (⟨[], some Errno.invalidArgument⟩, h)
  | some path =>
    match h.openForReading path with
    | .error number => (⟨[], some number⟩, h)
    | .ok file =>
      let (contents, stream) := file.stream.drain chunkSize
      (contents, h.putFile path (file.afterReading stream))

/-- Replaces the content of a file. The fault of closing the file counts only if everything was
written. A missing path is an invalid argument. -/
def writeWhole (path : Option Text) (octets : Text) (h : Host) : Option Errno × Host :=
  match path with
  | none => (some Errno.invalidArgument, h)
  | some path =>
    match h.openForWriting path with
    | .error number => (some number, h)
    | .ok file =>
      let (fault, file) := file.writeAll octets
      (fault.or file.closeFault, h.putFile path file)

/-- Reads at most `room` octets from the start of a file. Nothing is read of a file that cannot be
opened, and a request that fails ends the reading. -/
def readStart (path : Option Text) (room : Nat) (h : Host) : Text × Host :=
  match path with
  | none => ([], h)
  | some path =>
    match h.openForReading path with
    | .error _ => ([], h)
    | .ok file =>
      let (text, stream) := file.stream.fill room
      (text, h.putFile path (file.afterReading stream))

/-- Reads the start of a file into a buffer that ends with a zero octet, and strips the blanks that
end it. The first result is the number of octets that are left, the second the buffer. A buffer
without any octet stays as it is. -/
def readInto (path : Option Text) (buffer : List UInt8) (h : Host) : (Nat × List UInt8) × Host :=
  if buffer.isEmpty then ((0, buffer), h)
  else
    let (text, h) := h.readStart path (buffer.length - 1)
    ((text.stripEnd.length, text.zeroEnd ++ 0 :: buffer.drop (text.length + 1)), h)

/-- Reads the start of a file as a buffer of `size` octets holds it, without the blanks that
end it. -/
def readSmall (path : Option Text) (size : Nat) (h : Host) : Text × Host :=
  let ((count, buffer), h) := h.readInto path (List.replicate size 0)
  (buffer.take count, h)

/-- The size of the buffer for a file that holds an integer. -/
def integerBufferSize : Nat := 64

/-- Reads the integer with which a file starts and keeps its low 32 bits. The default stands for a
file without content or without an integer. -/
def readInt32 (path : Option Text) (default : Int32) (base : Int) (h : Host) : Int32 × Host :=
  let (text, h) := h.readSmall path integerBufferSize
  if text.isEmpty then (default, h)
  else
    match Numeral.leading? base text.untilNul with
    | some value => (Int32.ofInt value, h)
    | none => (default, h)

/-! ## Sockets -/

/-- Makes a request about a socket. The result is the error number if it fails. -/
def request (r : SocketRequest) (h : Host) : Option Errno × Host :=
  let (fault, sockets) := h.sockets.answer r
  (fault, { h with sockets, calls := h.calls ++ [⟨r, fault⟩] })

/-- Makes requests until one fails. The result is that request with its error number. -/
def requestAll : List SocketRequest → Host → Option (SocketRequest × Errno) × Host
  | [], h => (none, h)
  | r :: others, h =>
    match h.request r with
    | (some number, h) => (some (r, number), h)
    | (none, h) => requestAll others h

/-! ## Commands -/

/-- The path of the file that swallows everything. -/
def nullPath : Text := Text.ofString "/dev/null"

/-- Whether the file that swallows everything can be opened. -/
def hasNull (h : Host) : Bool :=
  match h.files.find? nullPath with
  | some file => file.writeOpenFault.isNone
  | none => false

/-- Runs a command. -/
def execute (arguments : List Text) (h : Host) : Execution × Host :=
  let (execution, command) := h.command.run h.hasNull arguments
  (execution, { h with command })

end Host

end LocalNet
