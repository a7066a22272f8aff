import LocalNet.Address
import LocalNet.Decimal
import LocalNet.Hex

/-!
# Printing of addresses

An IPv4 address is printed as four decimal numerals with dots between them. An IPv6 address is eight
groups of sixteen bits in lowercase hexadecimal with colons between them, where

- the longest run of at least two zero groups, the first of several of that length, is written as
  two colons;
- if the first six groups are that run, or the first five and the sixth is `ffff`, the last four
  octets are printed like an IPv4 address.
-/

namespace LocalNet.Address

/-- Octets as decimal numerals with dots between them. -/
def dotted (octets : List UInt8) : Text :=
  ['.'.toUInt8].intercalate (octets.map fun b => Decimal.ofNat b.toNat)

/-- The groups of sixteen bits that pairs of octets make up. -/
def groups : List UInt8 → List Nat
  | high :: low :: rest => (high.toNat * 256 + low.toNat) :: groups rest
  | _ => []

/-- The number of consecutive zero groups from position `i` on. -/
def zerosFrom (gs : List Nat) (i : Nat) : Nat :=
  ((gs.drop i).takeWhile (· == 0)).length

/-- The position and the length of the longest run of zero groups. The first of several wins; the
length is 0 if no group is zero. -/
def longestZeroRun (gs : List Nat) : Nat × Nat :=
  (List.range gs.length).foldl
    (fun best i => if best.2 < zerosFrom gs i then (i, zerosFrom gs i) else best) (0, 0)

/-- Groups in hexadecimal with colons between them. -/
def colonHex (gs : List Nat) : Text :=
  [':'.toUInt8].intercalate (gs.map Hex.ofNat)

/-- The printed form of sixteen octets. -/
def compressed (octets : List UInt8) : Text :=
  let gs := groups octets
  let (start, length) := longestZeroRun gs
  if length < 2 then colonHex gs
  else if start = 0 ∧ length = 6 then Text.ofString "::" ++ dotted (octets.drop 12)
  else if start = 0 ∧ length = 5 ∧ gs[5]? = some 0xffff then
    Text.ofString "::ffff:" ++ dotted (octets.drop 12)
  else colonHex (gs.take start) ++ Text.ofString "::" ++ colonHex (gs.drop (start + length))

/-- The printed form of an address; nothing for the unset address. -/
def toText (a : Address) : Text :=
  match a.family with
  | .unset => []
  | .v4 => dotted a.octets
  | .v6 => compressed a.octets

end LocalNet.Address
