import LocalNet.Address
import LocalNet.Decimal
import LocalNet.Hex

/-!
# Reading of addresses

The accepted forms are

- four decimal numerals from 0 to 255 without leading zeros, with dots between them;
- eight groups of one to four hexadecimal digits with colons between them;
- the same with two colons in place of at least one zero group, at one position;
- either of the last two with the last two groups written as four dotted numerals.

Neither brackets nor a zone belong to an address. A text of more than 45 octets is refused, and an
address ends where the text has a zero octet.
-/

namespace LocalNet.Address

/-- Reads a decimal numeral from 0 to 255 without leading zeros. -/
def octet? (t : Text) : Option UInt8 :=
  match Decimal.nat? t with
  | some n =>
    if n ≤ 255 ∧ (t.length = 1 ∨ t.head? ≠ some '0'.toUInt8) then some n.toUInt8 else none
  | none => none

/-- Reads four decimal numerals with dots between them. -/
def dotted? (t : Text) : Option (List UInt8) :=
  let parts := Text.pieces (· == '.'.toUInt8) t
  if parts.length = 4 then parts.mapM octet? else none

/-- Reads one to four hexadecimal digits as two octets. -/
def group? (t : Text) : Option (List UInt8) :=
  if 1 ≤ t.length ∧ t.length ≤ 4 then
    (t.mapM Hex.digit?).map fun digits =>
      let n := digits.foldl (fun n d => 16 * n + d) 0
      [(n / 256).toUInt8, (n % 256).toUInt8]
  else none

/-- Reads groups of hexadecimal digits; the last part may be four dotted numerals instead. -/
def groupsAndTail? : List Text → Option (List UInt8)
  | [] => some []
  | [last] => (group? last).or (dotted? last)
  | part :: rest =>
    match group? part, groupsAndTail? rest with
    | some first, some others => some (first ++ others)
    | _, _ => none

/-- The parts between colons. A text of no octets has none. -/
def colonParts (t : Text) : List Text :=
  if t.isEmpty then [] else Text.pieces (· == ':'.toUInt8) t

/-- The parts before and after the first two adjacent colons, if there are any. -/
def cutDoubleColon? : Text → Option (Text × Text)
  | a :: b :: rest =>
    if a = ':'.toUInt8 ∧ b = ':'.toUInt8 then some ([], rest)
    else (cutDoubleColon? (b :: rest)).map fun (before, after) => (a :: before, after)
  | _ => none

/-- Reads the sixteen octets of an IPv6 address. -/
def sixteen? (t : Text) : Option (List UInt8) :=
  match cutDoubleColon? t with
  | none => (groupsAndTail? (colonParts t)).filter (·.length == 16)
  | some (before, after) =>
    match (colonParts before).mapM group?, groupsAndTail? (colonParts after) with
    | some left, some right =>
      let known := left.flatten.length + right.length
      if known ≤ 14 then some (left.flatten ++ List.replicate (16 - known) 0 ++ right) else none
    | _, _ => none

/-- The length of the longest text that is read as an address. -/
def maxTextLength : Nat := 45

/-- Reads an address. Sixteen octets that stand for an IPv4 address give that address. -/
def parse? (t : Text) : Option Address :=
  if t.isEmpty ∨ maxTextLength < t.length then none
  else
    let text := t.untilNul
    ((dotted? text).or (sixteen? text)).map ofOctets

end LocalNet.Address
