import LocalNet.Host
import LocalNet.Interface.LinkAddress
import LocalNet.Survey

/-!
# The survey of a host

How the links and addresses that a host reports become a survey. The attributes of a link are read
from small files of the kernel; an address record belongs to the link whose name is the record's
label, or the part of the label before a colon.
-/

namespace LocalNet

namespace AddressRecord

/-- Whether a record belongs to the link of a given name. -/
def belongsTo (name : Text) (r : AddressRecord) : Bool :=
  match r.label with
  | some label => label == name || (name ++ [':'.toUInt8]).isPrefixOf label
  | none => false

/-- The entry of an IPv4 or IPv6 address. It is an address with a mask only if the mask has the
family of the address. -/
def entry? (r : AddressRecord) : Option Entry :=
  (r.address.bind SocketAddress.octets?).map fun octets =>
    let address := Address.ofOctets octets
    match r.mask.bind SocketAddress.octets? with
    | some mask =>
      if mask.length = octets.length then { network := ⟨address, Mask.ofOctets mask⟩ }
      else withoutMask address
    | none => withoutMask address
where
  /-- The entry of an address without a mask of its family. -/
  withoutMask (address : Address) : Entry :=
    { network := default
      other := some (address.toText ++ Text.ofString " without a matching netmask") }

end AddressRecord

namespace Link

/-- The longest path of an attribute. -/
def maxPathLength : Nat := 255

/-- The path of an attribute of a link, cut off where it would be too long. -/
def attributePath (name : Text) (leaf : String) : Text :=
  (Text.ofString "/sys/class/net/" ++ name ++ Text.ofString "/"
    ++ Text.ofString leaf).take maxPathLength

/-- The size of the buffer for a link-layer address. -/
def addressBufferSize : Nat := 128

end Link

namespace Host

/-- Describes a link by its attributes. An attribute that cannot be read counts as zero or
absent. -/
def describeLink (index : Nat) (name : Text) (h : Host) : Link × Host :=
  let (mtu, h) := h.readInt32 (some (Link.attributePath name "mtu")) 0 10
  let (word, h) := h.readInt32 (some (Link.attributePath name "flags")) 0 16
  let (text, h) := h.readSmall (some (Link.attributePath name "address")) Link.addressBufferSize
  ({ name, index, mtu
     linkAddress := LinkAddress.parse text.untilNul
     flags := Flags.ofKernel word.toUInt32 }, h)

/-- Describes links one after the other. -/
def describeLinks : List (Nat × Text) → Host → List Link × Host
  | [], h => ([], h)
  | (index, name) :: others, h =>
    let (link, h) := h.describeLink index name
    let (links, h) := describeLinks others h
    (link :: links, h)

/-- The links of the host. The number 0 ends the list. -/
def listLinks (h : Host) : Except Fault (List Link) × Host :=
  match h.links with
  | .error number => (.error (Fault.ofErrno .query number (Text.ofString "if_nameindex")), h)
  | .ok names =>
    let (links, h) := h.describeLinks (names.takeWhile (·.1 != 0))
    (.ok links, h)

/-- The address entries of a link, in the order of the host. -/
def entriesOf (name : Text) (h : Host) : Except Fault (List Entry) :=
  match h.addresses with
  | .error number => .error (Fault.ofErrno .query number (Text.ofString "getifaddrs"))
  | .ok records => .ok ((records.filter (·.belongsTo name)).filterMap AddressRecord.entry?)

/-- What the host says about its interfaces. -/
def survey (h : Host) : Survey × Host :=
  let (links, h) := h.listLinks
  (links.map fun links => links.map fun link => ⟨link, h.entriesOf link.name⟩, h)

end Host

/-- Where surveys come from. -/
abbrev Source := Host → Survey × Host

namespace Source

/-- The running system. -/
def system : Source :=
  Host.survey

/-- A survey that was made before. -/
def fixed (s : Survey) : Source :=
  fun h => (s, h)

end Source

end LocalNet
