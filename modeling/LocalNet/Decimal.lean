import LocalNet.Text

/-!
# Decimal numerals

Writing of naturals and integers in base ten, and the reading of a text that is one numeral from its
first octet to its last.

- `Decimal.ofNat`, `Decimal.ofInt`: the numeral without leading zeros;
- `Decimal.nat?`: a non-empty row of digits;
- `Decimal.int32?`: the same with an optional minus sign, within the range of 32 bits.
-/

namespace LocalNet.Decimal

/-- Whether an octet is one of the digits `0` to `9`. -/
def isDigit (c : UInt8) : Bool :=
  '0'.toUInt8 ≤ c && c ≤ '9'.toUInt8

/-- The numeral of a natural number. -/
def ofNat (n : Nat) : Text :=
  (Nat.toDigits 10 n).map Char.toUInt8

/-- The numeral of an integer, with a minus sign if it is negative. -/
def ofInt : Int → Text
  | .ofNat n => ofNat n
  | .negSucc n => '-'.toUInt8 :: ofNat (n + 1)

/-- The number that a row of digits denotes. -/
def value (digits : Text) : Nat :=
  digits.foldl (fun n d => 10 * n + (d.toNat - '0'.toUInt8.toNat)) 0

/-- Reads a text that consists of digits only, at least one. Leading zeros are allowed. -/
def nat? (t : Text) : Option Nat :=
  if !t.isEmpty && t.all isDigit then some (value t) else none

/-- Reads digits after an optional minus sign. A plus sign is refused. -/
def int? (t : Text) : Option Int :=
  if t.head? = some '-'.toUInt8 then (nat? t.tail).map fun n => -(n : Int)
  else (nat? t).map fun n => (n : Int)

/-- Reads an integer and refuses one that does not fit into 32 bits. -/
def int32? (t : Text) : Option Int :=
  (int? t).filter fun v => decide (-2147483648 ≤ v ∧ v ≤ 2147483647)

end LocalNet.Decimal
