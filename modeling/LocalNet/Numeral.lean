import LocalNet.Text

/-!
# Leading numerals

Reading of the integer with which a text starts, in a given base. Blanks and a sign may precede the
digits and anything may follow them. Base 16 allows a `0x` before the digits, and base 0 takes the
base from the digits themselves: 16 after `0x`, 8 after another `0`, 10 otherwise. No other mark is
known, so `0b1` is a zero with something after it in every base that has no digit `b`.

The value is kept within 64 bits: a numeral outside that range gives the nearer end of it.
-/

namespace LocalNet.Numeral

/-- The value of a digit or letter of either case, where `a` follows `9`. -/
def digit? (c : UInt8) : Option Nat :=
  if '0'.toUInt8 ≤ c && c ≤ '9'.toUInt8 then some (c.toNat - '0'.toUInt8.toNat)
  else if 'a'.toUInt8 ≤ c && c ≤ 'z'.toUInt8 then some (c.toNat - 'a'.toUInt8.toNat + 10)
  else if 'A'.toUInt8 ≤ c && c ≤ 'Z'.toUInt8 then some (c.toNat - 'A'.toUInt8.toNat + 10)
  else none

/-- The values of the digits with which a text starts. -/
def digits (base : Nat) : Text → List Nat
  | [] => []
  | c :: rest =>
    match digit? c with
    | some d => if d < base then d :: digits base rest else []
    | none => []

/-- Whether a minus sign starts the text, and the text after a sign. -/
def sign (t : Text) : Bool × Text :=
  match t with
  | c :: rest =>
    if c = '-'.toUInt8 then (true, rest) else if c = '+'.toUInt8 then (false, rest) else (false, t)
  | [] => (false, [])

/-- What follows `0x` in a text, if it starts with a hexadecimal digit. -/
def afterHexMark? (t : Text) : Option Text :=
  match t with
  | zero :: mark :: rest =>
    if zero = '0'.toUInt8 ∧ (mark = 'x'.toUInt8 ∨ mark = 'X'.toUInt8) ∧ digits 16 rest ≠ [] then
      some rest
    else none
  | _ => none

/-- The base of a numeral and the text of its digits. -/
def resolveBase (base : Nat) (t : Text) : Nat × Text :=
  match base, afterHexMark? t with
  | 0, some rest | 16, some rest => (16, rest)
  | 0, none => if t.head? = some '0'.toUInt8 then (8, t) else (10, t)
  | _, _ => (base, t)

/-- The nearest integer within 64 bits. -/
def clamp64 (v : Int) : Int :=
  if v < -9223372036854775808 then -9223372036854775808
  else if 9223372036854775807 < v then 9223372036854775807
  else v

/-- The integer with which a text starts; `none` if there are no digits. In a base that does not
exist every text reads as zero. -/
def leading? (base : Int) (t : Text) : Option Int :=
  if base < 0 ∨ base = 1 ∨ 36 < base then some 0
  else
    let (negative, rest) := sign (t.dropWhile Text.isBlank)
    let (radix, body) := resolveBase base.toNat rest
    match digits radix body with
    | [] => none
    | ds =>
      let magnitude : Nat := ds.foldl (fun n d => radix * n + d) 0
      some (clamp64 (if negative then -(magnitude : Int) else magnitude))

end LocalNet.Numeral
