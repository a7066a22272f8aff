import LocalNet.Text

/-!
# Network addresses

An address is unset, four octets (IPv4) or sixteen octets (IPv6), most significant octet first. The
octets determine the family, so two addresses are equal exactly if their octets are.

An IPv6 address of the form `::ffff:a.b.c.d` stands for the IPv4 address `a.b.c.d`. The constructor
`Address.ofOctets` replaces the one by the other, so that whatever it builds has one representation.
-/

namespace LocalNet

/-- The family of an address. -/
inductive Family where
  /-- No address has been set. -/
  | unset
  /-- Four octets. -/
  | v4
  /-- Sixteen octets. -/
  | v6
deriving DecidableEq

/-- An address: no octets, four or sixteen. -/
structure Address where
  /-- The octets of the address, most significant first. -/
  octets : List UInt8
  /-- The number of octets is the one of some family. -/
  length_octets : octets.length = 0 ∨ octets.length = 4 ∨ octets.length = 16
deriving DecidableEq

namespace Address

/-- Addresses are equal if their octets are. -/
@[ext]
theorem ext {a b : Address} (h : a.octets = b.octets) : a = b := by
  cases a; cases b; simp_all

/-- The address that has not been set. -/
def unset : Address :=
  ⟨[], .inl rfl⟩

/-- The IPv4 address of four octets. -/
def v4 (a b c d : UInt8) : Address :=
  ⟨[a, b, c, d], .inr (.inl rfl)⟩

instance : Inhabited Address := ⟨unset⟩

/-- The first twelve octets of an IPv6 address that stands for an IPv4 address. -/
def mappedStart : List UInt8 :=
  List.replicate 10 0 ++ [0xff, 0xff]

/-- Whether sixteen octets stand for an IPv4 address. -/
def isMapped (octets : List UInt8) : Bool :=
  mappedStart.isPrefixOf octets

/-- The address with the given octets. Sixteen octets that stand for an IPv4 address give that
address; a number of octets other than four and sixteen gives the unset address. -/
def ofOctets (octets : List UInt8) : Address :=
  if h4 : octets.length = 4 then ⟨octets, .inr (.inl h4)⟩
  else if h16 : octets.length = 16 then
    if isMapped octets then ⟨octets.drop 12, by simp [h16]⟩ else ⟨octets, .inr (.inr h16)⟩
  else unset

/-- The number of octets: 0, 4 or 16. -/
def size (a : Address) : Nat :=
  a.octets.length

/-- The family, read off the number of octets. -/
def family (a : Address) : Family :=
  if a.size = 4 then .v4 else if a.size = 16 then .v6 else .unset

/-- Whether the address has four octets. -/
def isV4 (a : Address) : Bool :=
  a.family == .v4

/-- Whether the address has sixteen octets. -/
def isV6 (a : Address) : Bool :=
  a.family == .v6

/-- Whether no address has been set. -/
def isUnset (a : Address) : Bool :=
  a.family == .unset

/-- Whether the address is link-local unicast: in 169.254.0.0/16 or fe80::/10. -/
def isLinkLocal (a : Address) : Bool :=
  match a.family, a.octets with
  | .v4, first :: second :: _ => first == 169 && second == 254
  | .v6, first :: second :: _ => first == 0xfe && second &&& 0xc0 == 0x80
  | _, _ => false

/-- Whether the address is a loopback address: in 127.0.0.0/8 or ::1. -/
def isLoopback (a : Address) : Bool :=
  match a.family with
  | .v4 => a.octets.head? == some 127
  | .v6 => a.octets == List.replicate 15 0 ++ [1]
  | .unset => false

/-- Whether the address is set and all its octets are zero. -/
def isUnspecified (a : Address) : Bool :=
  !a.isUnset && a.octets.all (· == 0)

end Address

end LocalNet
