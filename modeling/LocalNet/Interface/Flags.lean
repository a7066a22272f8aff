import LocalNet.Text

/-!
# Interface flags

The states of an interface that the library knows, the bits by which it keeps them and the bits by
which the kernel reports them.
-/

namespace LocalNet

/-- A state of an interface. -/
inductive Flag where
  /-- It is switched on. -/
  | up
  /-- It can broadcast. -/
  | broadcast
  /-- It is a loopback. -/
  | loopback
  /-- It has one peer. -/
  | pointToPoint
  /-- It can multicast. -/
  | multicast
  /-- It is ready for traffic. -/
  | running
deriving DecidableEq

namespace Flag

/-- All flags, in the order in which they are printed. -/
def all : List Flag :=
  [.up, .broadcast, .loopback, .pointToPoint, .multicast, .running]

/-- The bit by which the library keeps a flag. -/
def bit : Flag → UInt32
  | .up => 0x01
  | .broadcast => 0x02
  | .loopback => 0x04
  | .pointToPoint => 0x08
  | .multicast => 0x10
  | .running => 0x20

/-- The bit by which the kernel reports a flag. -/
def kernelBit : Flag → UInt32
  | .up => 0x0001
  | .broadcast => 0x0002
  | .loopback => 0x0008
  | .pointToPoint => 0x0010
  | .multicast => 0x1000
  | .running => 0x0040

/-- The printed name of a flag. -/
def name : Flag → String
  | .up => "up"
  | .broadcast => "broadcast"
  | .loopback => "loopback"
  | .pointToPoint => "pointtopoint"
  | .multicast => "multicast"
  | .running => "running"

end Flag

/-- A set of flags, as a word of bits. Bits without a flag are kept and ignored. -/
structure Flags where
  /-- The word. -/
  bits : UInt32 := 0
deriving DecidableEq

namespace Flags

/-- Whether a flag is in the set. -/
def has (s : Flags) (f : Flag) : Bool :=
  s.bits &&& f.bit != 0

/-- The set of given flags. -/
def ofList (flags : List Flag) : Flags :=
  ⟨flags.foldl (fun bits f => bits ||| f.bit) 0⟩

/-- The flags that a word of the kernel reports. -/
def ofKernel (word : UInt32) : Flags :=
  ofList (Flag.all.filter fun f => word &&& f.kernelBit != 0)

/-- The names of the flags in the set with bars between them, or a zero if there are none. -/
def toText (s : Flags) : Text :=
  match Flag.all.filter s.has with
  | [] => Text.ofString "0"
  | present => ['|'.toUInt8].intercalate (present.map fun f => Text.ofString f.name)

end Flags

end LocalNet
