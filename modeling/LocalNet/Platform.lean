import LocalNet.Gateway
import LocalNet.Lookup
import LocalNet.StaticConfig

/-!
# Platforms

What depends on the kind of operating system: static addresses, privileged ports, the release of a
probe's socket and the number that says that an address is in use.

- `Platform.linux`: a Linux system with its configuration files;
- `Platform.generic`: a system of which nothing more is known;
- `Platform.default`: the Linux system with the usual settings.
-/

namespace LocalNet

/-- The operations that depend on the operating system. -/
structure Platform where
  /-- Whether an interface is configured with a static address. -/
  hasStaticAddress : Text → Host → Check × Host
  /-- Makes the present address of an interface static. -/
  setStaticAddress : Text → Host → Option Fault × Host
  /-- Whether this process may bind privileged ports. -/
  mayBindPrivileged : Host → Check × Host
  /-- Releases the socket of a successful probe. -/
  release : Host → Option Fault × Host
  /-- Whether an error number says that an address is in use. -/
  meansInUse : Errno → Bool

/-! ## Capabilities -/

namespace Host

/-- Whether the effective user is the superuser. -/
def isSuperuser (h : Host) : Bool :=
  h.userId == 0

/-- Whether a capability is in the effective set. A capability that cannot exist is not. -/
def hasCapability (bit : Int) (h : Host) : Check :=
  if bit < 0 ∨ 63 < bit then ⟨false, none⟩
  else
    match h.capabilities with
    | .ok set => ⟨set.toNat.testBit bit.toNat, none⟩
    | .error number =>
      ⟨false, some (Fault.ofErrno .capability number (Text.ofString "reading capability sets"))⟩

/-- Closes the socket of a probe. -/
def closeProbe (h : Host) : Option Fault × Host :=
  let (outcome, h) := h.request .close
  (outcome.map fun number => Fault.ofErrno .close number (Text.ofString "closing port checker"), h)

end Host

/-! ## Linux -/

/-- The files and commands of a Linux system. -/
structure LinuxSettings where
  /-- The configuration file of the DHCP client. -/
  clientPath : Text := Text.ofString "/etc/dhcpcd.conf"
  /-- The file of interface definitions. -/
  definitionsPath : Text := Text.ofString "/etc/network/interfaces"
  /-- The file with the first port that needs no privilege. -/
  portStartPath : Text := Text.ofString "/proc/sys/net/ipv4/ip_unprivileged_port_start"
  /-- The routing command. -/
  routingCommand : Text := Gateway.defaultCommand

namespace LinuxSettings

/-- The answer of one configuration file: a fault if it exists and cannot be read. A file that does
not exist says nothing. -/
def fileHasStatic (path name : Text) (rule : Text → Text → Bool) (h : Host) :
    Except Fault Bool × Host :=
  let (contents, h) := h.readWhole (some path)
  match contents.fault with
  | none => (.ok (rule contents.text name), h)
  | some number =>
    if number = Errno.noEntry then (.ok false, h)
    else (.error (Fault.ofErrno .io number (Text.ofString "reading " ++ path)), h)

/-- The fault of an interface that no file calls static. -/
def noInformation (name : Text) : Fault :=
  { kind := .noStaticInfo
    message := Text.ofString "no static IP configuration found for " ++ name }

/-- Whether an interface is static: the file of the DHCP client is asked first and the file of
interface definitions after it. That neither says so does not mean that it is not. -/
def hasStaticAddress (s : LinuxSettings) (name : Text) (h : Host) : Check × Host :=
  match fileHasStatic s.clientPath name StaticConfig.clientHasStatic h with
  | (.error fault, h) => (⟨false, some fault⟩, h)
  | (.ok true, h) => (⟨true, none⟩, h)
  | (.ok false, h) =>
    match fileHasStatic s.definitionsPath name StaticConfig.definitionsHaveStatic h with
    | (.error fault, h) => (⟨false, some fault⟩, h)
    | (.ok true, h) => (⟨true, none⟩, h)
    | (.ok false, h) => (⟨false, some (noInformation name)⟩, h)

/-- Adds a text at the end of the file of the DHCP client, which is made if it does not exist. -/
def appendToClient (s : LinuxSettings) (text : Text) (h : Host) : Option Fault × Host :=
  let (contents, h) := h.readWhole (some s.clientPath)
  match contents.fault.filter (· != Errno.noEntry) with
  | some number =>
    (some (Fault.ofErrno .io number (Text.ofString "reading " ++ s.clientPath)), h)
  | none =>
    let (fault, h) := h.writeWhole (some s.clientPath) (contents.text ++ text)
    (fault.map fun number =>
      Fault.ofErrno .io number (Text.ofString "writing " ++ s.clientPath), h)

/-- Makes the present address of an interface static: a section with its first network is added to
the file of the DHCP client. -/
def setStaticAddress (s : LinuxSettings) (source : Source) (runner : Runner) (name : Text)
    (h : Host) : Option Fault × Host :=
  match source.networkOf name h with
  | (none, h) =>
    (some { kind := .query, message := Text.ofString "can't get IP address" }, h)
  | (some network, h) =>
    let (gateway, h) := Gateway.lookup runner s.routingCommand name h
    match s.appendToClient (StaticConfig.stanza name network gateway network.address) h with
    | (some fault, h) => (some fault, h)
    | (none, h) =>
      (none, h.record .info
        (s.clientPath ++ Text.ofString " updated with a static address for " ++ name))

/-- The capability to bind privileged ports. -/
def bindCapability : Int := 10

/-- Whether privileged ports may be bound: by the superuser, with the capability, or if there are
none. -/
def mayBindPrivileged (s : LinuxSettings) (h : Host) : Check × Host :=
  if h.isSuperuser then (⟨true, none⟩, h)
  else
    let held := h.hasCapability bindCapability
    if held.fault.isSome || held.value then (held, h)
    else
      let (start, h) := h.readInt32 (some s.portStartPath) (-1) 10
      (⟨start == 0, none⟩, h)

end LinuxSettings

namespace Platform

/-- A Linux system that takes its surveys and its commands' outcomes from given places. -/
def linux (s : LinuxSettings) (source : Source) (runner : Runner) : Platform where
  hasStaticAddress := s.hasStaticAddress
  setStaticAddress := s.setStaticAddress source runner
  mayBindPrivileged := s.mayBindPrivileged
  release := Host.closeProbe
  meansInUse := (· == Errno.addressInUse)

/-- A system of which nothing is known: static addresses are not supported, and only the superuser
binds privileged ports. -/
def generic : Platform where
  hasStaticAddress name h :=
    (⟨false, some
      { kind := .noStaticInfo
        message := Text.ofString "static IP detection is not supported for " ++ name }⟩, h)
  setStaticAddress name h :=
    (some
      { kind := .unsupported
        message := Text.ofString "cannot set static IP for " ++ name
          ++ Text.ofString " on this platform" }, h)
  mayBindPrivileged h := (⟨h.isSuperuser, none⟩, h)
  release := Host.closeProbe
  meansInUse := (· == Errno.addressInUse)

/-- The running system. -/
def default : Platform :=
  linux {} Source.system Runner.system

end Platform

/-- Whether a fault was caused by an address that is in use: a system code says so. -/
def Fault.isAddressInUse (p : Platform) (f : Fault) : Bool :=
  match f.code.domain with
  | .system | .generic => f.hasCode && p.meansInUse f.code.number
  | .stream => false

end LocalNet
