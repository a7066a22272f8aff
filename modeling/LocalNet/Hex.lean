import LocalNet.Text

/-!
# Hexadecimal digits

- `Hex.digit?`: the value of a digit of either case;
- `Hex.ofNat`: the shortest lowercase numeral;
- `Hex.octet`, `Hex.ofOctets`: two lowercase digits for each octet;
- `Hex.withColons`: the same with colons between the octets, as link-layer addresses are written.
-/

namespace LocalNet.Hex

/-- The value of a hexadecimal digit of either case. -/
def digit? (c : UInt8) : Option Nat :=
  if '0'.toUInt8 ≤ c && c ≤ '9'.toUInt8 then some (c.toNat - '0'.toUInt8.toNat)
  else if 'a'.toUInt8 ≤ c && c ≤ 'f'.toUInt8 then some (c.toNat - 'a'.toUInt8.toNat + 10)
  else if 'A'.toUInt8 ≤ c && c ≤ 'F'.toUInt8 then some (c.toNat - 'A'.toUInt8.toNat + 10)
  else none

/-- The lowercase numeral of a natural number, without leading zeros. -/
def ofNat (n : Nat) : Text :=
  (Nat.toDigits 16 n).map Char.toUInt8

/-- The two lowercase digits of an octet. -/
def octet (b : UInt8) : Text :=
  [(Nat.digitChar (b.toNat / 16)).toUInt8, (Nat.digitChar (b.toNat % 16)).toUInt8]

/-- The digits of a row of octets, two for each. -/
def ofOctets (octets : List UInt8) : Text :=
  octets.flatMap octet

/-- The digits of a row of octets with a colon between neighbours. -/
def withColons (octets : List UInt8) : Text :=
  [':'.toUInt8].intercalate (octets.map octet)

end LocalNet.Hex
