import LocalNet.Hex

/-!
# Link-layer addresses

A link-layer address is a row of octets, written as pairs of hexadecimal digits with colons between
them. An address of zeros only is none.
-/

namespace LocalNet.LinkAddress

/-- Reads a pair of hexadecimal digits. -/
def pair? : Text → Option UInt8
  | [high, low] =>
    match Hex.digit? high, Hex.digit? low with
    | some h, some l => some (16 * h + l).toUInt8
    | _, _ => none
  | _ => none

/-- Reads pairs of hexadecimal digits with colons between them. -/
def pairs? (t : Text) : Option (List UInt8) :=
  (Text.pieces (· == ':'.toUInt8) t).mapM pair?

/-- Reads a link-layer address. The result is empty if the text is none or all its octets are
zero. -/
def parse (t : Text) : List UInt8 :=
  match pairs? t with
  | some octets => if octets.all (· == 0) then [] else octets
  | none => []

end LocalNet.LinkAddress
