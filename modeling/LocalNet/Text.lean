/-!
# Octet texts

The library reads and writes sequences of octets in no particular encoding: file contents, command
output, interface names. This module fixes that type and the few operations on it:

- `Text.ofString`: the octets of a literal;
- `Text.isBlank`: the six blanks that separate fields;
- `Text.trim`, `Text.stripEnd`: removal of blanks at the ends;
- `Text.cutFirst?`, `Text.cutLast?`: the two sides of one separator;
- `Text.pieces`, `Text.fields`, `Text.lines`: splitting at every separator.
-/

namespace LocalNet

/-- A text is a finite sequence of octets. -/
abbrev Text := List UInt8

namespace Text

/-- The octets of a string, in UTF-8. -/
def ofString (s : String) : Text :=
  s.toUTF8.data.toList

/-- The blanks that separate fields: space, tab, line feed, vertical tab, form feed and carriage
return. -/
def isBlank (c : UInt8) : Bool :=
  c == ' '.toUInt8 || (0x09 ≤ c && c ≤ 0x0d)

/-- The text up to its first zero octet, which is what a zero-terminated buffer keeps of it. -/
def untilNul (t : Text) : Text :=
  t.takeWhile (· != 0)

/-- The text without its longest ending whose octets all satisfy `p`. -/
def dropEndWhile (p : UInt8 → Bool) (t : Text) : Text :=
  (t.reverse.dropWhile p).reverse

/-- The text without blanks at either end. -/
def trim (t : Text) : Text :=
  dropEndWhile isBlank (t.dropWhile isBlank)

/-- Whether an octet is a blank that may end the content of a small file: a space, a tab, a line
feed or a carriage return. -/
def isTrailingBlank (c : UInt8) : Bool :=
  c == '\n'.toUInt8 || c == '\r'.toUInt8 || c == ' '.toUInt8 || c == '\t'.toUInt8

/-- The text without the blanks that end it. -/
def stripEnd (t : Text) : Text :=
  dropEndWhile isTrailingBlank t

/-- The text with a zero octet in place of each blank that ends it. -/
def zeroEnd (t : Text) : Text :=
  stripEnd t ++ List.replicate (t.length - (stripEnd t).length) 0

/-- The parts before and after the first `sep`, if there is one. -/
def cutFirst? (sep : UInt8) : Text → Option (Text × Text)
  | [] => none
  | c :: rest =>
    if c = sep then some ([], rest)
    else (cutFirst? sep rest).map fun (before, after) => (c :: before, after)

/-- The parts before and after the last `sep`, if there is one. -/
def cutLast? (sep : UInt8) : Text → Option (Text × Text)
  | [] => none
  | c :: rest =>
    match cutLast? sep rest with
    | some (before, after) => some (c :: before, after)
    | none => if c = sep then some ([], rest) else none

/-- The first piece and the other pieces of a text cut at every octet that satisfies `isSep`. -/
def firstAndOtherPieces (isSep : UInt8 → Bool) : Text → Text × List Text
  | [] => ([], [])
  | c :: rest =>
    let (first, others) := firstAndOtherPieces isSep rest
    if isSep c then ([], first :: others) else (c :: first, others)

/-- The pieces of a text cut at every octet that satisfies `isSep`. There is one more piece than
there are separators, so a text without any is a single piece; pieces may be empty. -/
def pieces (isSep : UInt8 → Bool) (t : Text) : List Text :=
  let (first, others) := firstAndOtherPieces isSep t
  first :: others

/-- The fields of a text: its longest stretches without blanks. -/
def fields (t : Text) : List Text :=
  (pieces isBlank t).filter (!·.isEmpty)

/-- A line without the carriage return that ends it, if one does. -/
def dropReturn (line : Text) : Text :=
  if line.getLast? = some 0x0d then line.dropLast else line

/-- The lines of a text, without their line feeds and without one carriage return before each.
What follows the last line feed is a line only if it is not empty. -/
def lines (t : Text) : List Text :=
  let cut := pieces (· == 0x0a) t
  (if cut.getLast? = some [] then cut.dropLast else cut).map dropReturn

/-- Whether `needle` occurs somewhere in the text. -/
def holds (needle : Text) : Text → Bool
  | [] => needle.isEmpty
  | c :: rest => needle.isPrefixOf (c :: rest) || holds needle rest

/-- The text with spaces added at its end until it is `width` octets long. A longer text is left as
it is. -/
def padEnd (width : Nat) (t : Text) : Text :=
  t ++ List.replicate (width - t.length) ' '.toUInt8

end Text

end LocalNet
