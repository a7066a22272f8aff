import LocalNet.Interface.Flags
import LocalNet.Json
import LocalNet.Network

/-!
# Interfaces

An interface with the addresses at which a program can listen. `Interface.toText` is one line about
it and `Interface.listToJson` the record of several for other programs.
-/

namespace LocalNet

/-- An interface. In an enumerated one the addresses and the networks belong together pairwise. -/
structure Interface where
  /-- The name. -/
  name : Text := []
  /-- The addresses. -/
  addresses : List Address := []
  /-- The networks of the addresses. -/
  networks : List Network := []
  /-- The link-layer address; empty if there is none. -/
  linkAddress : List UInt8 := []
  /-- The flags. -/
  flags : Flags := {}
  /-- The largest number of octets that one packet can have. -/
  mtu : Int32 := 0
deriving DecidableEq

namespace Interface

/-- The printed addresses. -/
def addressTexts (i : Interface) : List Text :=
  i.addresses.map Address.toText

/-- One line about the interface. The link-layer address and the networks are left out if there are
none. -/
def toText (i : Interface) : Text :=
  let link :=
    if i.linkAddress.isEmpty then []
    else Text.ofString " mac=" ++ Hex.withColons i.linkAddress
  let networks :=
    if i.networks.isEmpty then []
    else Text.ofString " inet=" ++ [','.toUInt8].intercalate (i.networks.map Network.toText)
  i.name ++ Text.ofString ": flags=" ++ i.flags.toText ++ Text.ofString " mtu="
    ++ Decimal.ofInt i.mtu.toInt ++ link ++ networks

/-- The record of the interface. Only its name can hold octets to escape. The list of addresses is
left out if it is empty; networks are never part of it. -/
def toJson (i : Interface) : Text :=
  let addresses :=
    if i.addresses.isEmpty then [] else [Json.member "ip_addresses" (Json.strings i.addressTexts)]
  Json.object
    ([Json.member "name" (Json.quoted i.name),
      Json.member "hardware_address" (Json.plain (Hex.withColons i.linkAddress)),
      Json.member "flags" (Json.plain i.flags.toText),
      Json.member "mtu" (Decimal.ofInt i.mtu.toInt)] ++ addresses)

/-- The records of several interfaces. -/
def listToJson (interfaces : List Interface) : Text :=
  Json.block (interfaces.map toJson)

end Interface

end LocalNet
