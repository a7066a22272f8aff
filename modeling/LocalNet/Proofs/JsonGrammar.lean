import LocalNet.Hex
import LocalNet.Decimal
import Mathlib.Data.Rat.Defs

/-!
# The grammar of JSON

What a text means to another program. A reading is a relation between a text, a value and the text
that is left behind the value; it follows the grammar rule by rule and knows nothing of the printers.

- `Value`: what a text can denote;
- `Next`: the token at the head of a text, which is one of a few fixed words, a number or a string;
- `Reads`: values, and the parts of arrays and objects behind their opening brackets;
- `Denotes`: a whole text and its value;
- `Denotes.unique`: no text has two values.

Strings are rows of octets. Octets from 0x80 on stand for themselves and an escaped code point for
its octets in UTF-8, so the grammar makes no demand on the encoding of the text. An escaped half of
a surrogate pair without its other half is refused.
-/

namespace LocalNet.Json

/-- A value. The members of an object stand in the order of the text, and no name is dropped if it
is there twice. -/
inductive Value where
  | null
  | bool (b : Bool)
  | number (q : ℚ)
  | string (t : Text)
  | array (items : List Value)
  | object (members : List (Text × Value))

/-! ## Strings -/

/-- The number that four hexadecimal digits denote. -/
def readUnit : Text → Option (Nat × Text)
  | a :: b :: c :: d :: rest => do
    let a ← Hex.digit? a
    let b ← Hex.digit? b
    let c ← Hex.digit? c
    let d ← Hex.digit? d
    return (((16 * a + b) * 16 + c) * 16 + d, rest)
  | _ => none

/-- The first half of a surrogate pair. -/
def isHighHalf (unit : Nat) : Bool :=
  0xD800 ≤ unit && unit < 0xDC00

/-- The second half of a surrogate pair. -/
def isLowHalf (unit : Nat) : Bool :=
  0xDC00 ≤ unit && unit < 0xE000

/-- The octets of a code point. -/
def codePoint (n : Nat) : Text :=
  String.utf8EncodeChar (Char.ofNat n)

/-- The octets that a code point in hexadecimal digits stands for. One above 0xffff is written as
the two halves of a surrogate pair. -/
def readCodePoint (t : Text) : Option (Text × Text) := do
  let (unit, rest) ← readUnit t
  if isHighHalf unit then
    -- Only the other half, escaped as well, may follow.
    if (Text.ofString "\\u").isPrefixOf rest then
      let (low, rest) ← readUnit (rest.drop 2)
      if isLowHalf low then
        some (codePoint (0x10000 + (unit - 0xD800) * 0x400 + (low - 0xDC00)), rest)
      else none
    else none
  else if isLowHalf unit then none
  else some (codePoint unit, rest)

/-- The octets that may follow a backslash, with what each stands for. -/
def escapes : List (UInt8 × UInt8) :=
  [('"'.toUInt8, '"'.toUInt8), ('\\'.toUInt8, '\\'.toUInt8), ('/'.toUInt8, '/'.toUInt8),
    ('b'.toUInt8, 0x08), ('f'.toUInt8, 0x0c), ('n'.toUInt8, 0x0a), ('r'.toUInt8, 0x0d),
    ('t'.toUInt8, 0x09)]

/-- What an escape behind its backslash stands for. -/
def readEscape : Text → Option (Text × Text)
  | [] => none
  | c :: rest =>
    if c = 'u'.toUInt8 then readCodePoint rest
    else (escapes.lookup c).map fun octet => ([octet], rest)

/-- The octets that the first character of a string stands for. A control octet has to be escaped,
and a quote ends the string. -/
def readCharacter : Text → Option (Text × Text)
  | [] => none
  | c :: rest =>
    if c = '\\'.toUInt8 then readEscape rest
    else if c < 0x20 ∨ c = '"'.toUInt8 then none
    else some ([c], rest)

/-- The characters of a string up to the quote that ends it. -/
inductive Characters : Text → Text → Text → Prop
  | close {rest : Text} : Characters ('"'.toUInt8 :: rest) [] rest
  | character {t c more s rest : Text} :
      readCharacter t = some (c, more) → Characters more s rest → Characters t (c ++ s) rest

/-! ## Numbers -/

/-- The longest row of digits at the head of a text, which must not be empty. -/
def readDigits (t : Text) : Option (Text × Text) :=
  if (t.takeWhile Decimal.isDigit).isEmpty then none
  else some (t.takeWhile Decimal.isDigit, t.dropWhile Decimal.isDigit)

/-- The whole part of a number. Only zero begins with the digit zero. -/
def readWhole (t : Text) : Option (Text × Text) :=
  (readDigits t).filter fun (digits, _) => digits.length = 1 ∨ digits.head? ≠ some '0'.toUInt8

/-- The sign of a number. -/
def readMinus (t : Text) : Int × Text :=
  if t.head? = some '-'.toUInt8 then (-1, t.tail) else (1, t)

/-- The digits behind the point of a number; none if there is no point. -/
def readFraction (t : Text) : Option (Text × Text) :=
  if t.head? = some '.'.toUInt8 then readDigits t.tail else some ([], t)

/-- The exponent of a number; zero if there is none. -/
def readExponent (t : Text) : Option (Int × Text) :=
  if t.head? = some 'e'.toUInt8 ∨ t.head? = some 'E'.toUInt8 then do
    let (sign, t) := if t.tail.head? = some '+'.toUInt8 then (1, t.tail.tail) else readMinus t.tail
    let (digits, rest) ← readDigits t
    return (sign * Decimal.value digits, rest)
  else some (0, t)

/-- A number. -/
def readNumber (t : Text) : Option (ℚ × Text) := do
  let (sign, t) := readMinus t
  let (whole, t) ← readWhole t
  let (fraction, t) ← readFraction t
  let (exponent, rest) ← readExponent t
  return (sign * Decimal.value (whole ++ fraction) * 10 ^ (exponent - fraction.length), rest)

/-! ## Tokens -/

/-- The smallest parts of a text. -/
inductive Token where
  | beginArray
  | endArray
  | beginObject
  | endObject
  | valueSeparator
  | nameSeparator
  | null
  | bool (b : Bool)
  | number (q : ℚ)
  | string (t : Text)
deriving DecidableEq

/-- The value that a token is by itself. -/
def Token.value? : Token → Option Value
  | .null => some .null
  | .bool b => some (.bool b)
  | .number q => some (.number q)
  | .string t => some (.string t)
  | _ => none

/-- The tokens that are always written the same way. -/
def words : List (Text × Token) :=
  [(Text.ofString "[", .beginArray), (Text.ofString "]", .endArray),
    (Text.ofString "\x7b", .beginObject), (Text.ofString "\x7d", .endObject),
    (Text.ofString ",", .valueSeparator), (Text.ofString ":", .nameSeparator),
    (Text.ofString "null", .null), (Text.ofString "true", .bool true),
    (Text.ofString "false", .bool false)]

/-- The token at the head of a text if it is not a string. -/
def readWord (t : Text) : Option (Token × Text) :=
  match words.find? (·.1.isPrefixOf t) with
  | some (word, token) => some (token, t.drop word.length)
  | none => (readNumber t).map fun (q, rest) => (.number q, rest)

/-- The blanks that may stand between tokens: space, tab, line feed and carriage return. -/
def isBlank (c : UInt8) : Bool :=
  c == ' '.toUInt8 || c == '\t'.toUInt8 || c == '\n'.toUInt8 || c == '\r'.toUInt8

/-- The text without the blanks at its head. -/
def skip (t : Text) : Text :=
  t.dropWhile isBlank

/-- The first token of a text and what follows it. -/
inductive Next : Text → Token → Text → Prop
  | word {t rest : Text} {token : Token} :
      readWord (skip t) = some (token, rest) → Next t token rest
  | string {t more s rest : Text} :
      skip t = '"'.toUInt8 :: more → Characters more s rest → Next t (.string s) rest

/-! ## Values -/

/-- What is being read: a value, one member of an object, or what follows the opening bracket of an
array or an object that is not empty, up to and including the closing bracket. -/
inductive Form where
  | value
  | member
  | elements
  | members
deriving DecidableEq

/-- The rules of the grammar. The first text begins with the form, which denotes the value, and the
second text is what follows it. -/
inductive Reads : Form → Text → Value → Text → Prop
  | scalar {t rest : Text} {token : Token} {v : Value} :
      Next t token rest → token.value? = some v → Reads .value t v rest
  | emptyArray {t more rest : Text} :
      Next t .beginArray more → Next more .endArray rest → Reads .value t (.array []) rest
  | array {t more rest : Text} {v : Value} :
      Next t .beginArray more → Reads .elements more v rest → Reads .value t v rest
  | emptyObject {t more rest : Text} :
      Next t .beginObject more → Next more .endObject rest → Reads .value t (.object []) rest
  | object {t more rest : Text} {v : Value} :
      Next t .beginObject more → Reads .members more v rest → Reads .value t v rest
  | lastElement {t more rest : Text} {v : Value} :
      Reads .value t v more → Next more .endArray rest → Reads .elements t (.array [v]) rest
  | nextElement {t more others rest : Text} {v : Value} {vs : List Value} :
      Reads .value t v more → Next more .valueSeparator others →
      Reads .elements others (.array vs) rest → Reads .elements t (.array (v :: vs)) rest
  | member {t colon body rest name : Text} {v : Value} :
      Next t (.string name) colon → Next colon .nameSeparator body → Reads .value body v rest →
      Reads .member t (.object [(name, v)]) rest
  | lastMember {t more rest : Text} {v : Value} :
      Reads .member t v more → Next more .endObject rest → Reads .members t v rest
  | nextMember {t more others rest : Text} {m : Text × Value} {ms : List (Text × Value)} :
      Reads .member t (.object [m]) more → Next more .valueSeparator others →
      Reads .members others (.object ms) rest → Reads .members t (.object (m :: ms)) rest

/-- The text is a value with blanks around it. -/
def Denotes (t : Text) (v : Value) : Prop :=
  ∃ rest, Reads .value t v rest ∧ skip rest = []

/-! ## Blanks at the head of a text -/

theorem skip_append {gap : Text} (hgap : gap.all isBlank = true) (t : Text) :
    skip (gap ++ t) = skip t :=
  List.dropWhile_append_of_pos (List.all_eq_true.mp hgap)

theorem Next.gap {gap t rest : Text} {token : Token} (hgap : gap.all isBlank = true)
    (h : Next t token rest) : Next (gap ++ t) token rest := by
  cases h with
  | word hword => exact .word (by rwa [skip_append hgap])
  | string hskip hs => exact .string (by rwa [skip_append hgap]) hs

/-- Blanks in front of a text change nothing about what it denotes. -/
theorem Reads.gap {f : Form} {gap t rest : Text} {v : Value} (hgap : gap.all isBlank = true)
    (h : Reads f t v rest) : Reads f (gap ++ t) v rest := by
  -- Every rule but those of rows begins with a token; a row begins with its first item.
  induction h with
  | scalar hnext hv => exact .scalar (hnext.gap hgap) hv
  | emptyArray hnext hend => exact .emptyArray (hnext.gap hgap) hend
  | array hnext hread _ => exact .array (hnext.gap hgap) hread
  | emptyObject hnext hend => exact .emptyObject (hnext.gap hgap) hend
  | object hnext hread _ => exact .object (hnext.gap hgap) hread
  | lastElement _ hend ih => exact .lastElement ih hend
  | nextElement _ hsep hothers ih _ => exact .nextElement ih hsep hothers
  | member hname hcolon hvalue _ => exact .member (hname.gap hgap) hcolon hvalue
  | lastMember _ hend ih => exact .lastMember ih hend
  | nextMember _ hsep hothers ih _ => exact .nextMember ih hsep hothers

/-! ## A text has one value -/

theorem Characters.unique {t s s' rest rest' : Text} (h : Characters t s rest)
    (h' : Characters t s' rest') : s = s' ∧ rest = rest' := by
  -- A quote ends a string and is no character, so both readings take the same step.
  have hquote (t : Text) : readCharacter ('"'.toUInt8 :: t) = none := rfl
  induction h generalizing s' rest' with
  | close =>
    cases h' with
    | close => exact ⟨rfl, rfl⟩
    | character hc _ => simp [hquote] at hc
  | character hc _ ih =>
    cases h' with
    | close => simp [hquote] at hc
    | character hc' h' =>
      obtain ⟨rfl, rfl⟩ : _ ∧ _ := by simpa [hc] using hc'
      obtain ⟨rfl, rfl⟩ := ih h'
      exact ⟨rfl, rfl⟩

/-- No word and no number begins with a quote. -/
theorem readWord_quote (t : Text) : readWord ('"'.toUInt8 :: t) = none := rfl

theorem Next.unique {t rest rest' : Text} {token token' : Token} (h : Next t token rest)
    (h' : Next t token' rest') : token = token' ∧ rest = rest' := by
  cases h with
  | word hword =>
    cases h' with
    | word hword' => simpa [hword] using hword'
    -- A text that begins with a quote is read by one rule only.
    | string hskip _ => simp [hskip, readWord_quote] at hword
  | string hskip hs =>
    cases h' with
    | word hword' => simp [hskip, readWord_quote] at hword'
    | string hskip' hs' =>
      obtain rfl : _ = _ := by simpa [hskip] using hskip'
      obtain ⟨rfl, rfl⟩ := hs.unique hs'
      exact ⟨rfl, rfl⟩

/-- What can be read begins with a token that opens a value or is one, never with a closing
bracket. -/
theorem Reads.first {f : Form} {t rest : Text} {v : Value} (h : Reads f t v rest) :
    ∃ token more, Next t token more ∧ token ≠ .endArray ∧ token ≠ .endObject := by
  induction h with
  | scalar hnext hv =>
    exact ⟨_, _, hnext, fun h => by simp [h, Token.value?] at hv,
      fun h => by simp [h, Token.value?] at hv⟩
  | emptyArray hnext _ | array hnext _ _ | emptyObject hnext _ | object hnext _ _
  | member hnext _ _ _ =>
    exact ⟨_, _, hnext, by simp, by simp⟩
  | lastElement _ _ ih | nextElement _ _ _ ih _ | lastMember _ _ ih | nextMember _ _ _ ih _ =>
    exact ih

theorem Reads.not_endArray {f : Form} {t rest rest' : Text} {v : Value} (h : Reads f t v rest) :
    ¬ Next t .endArray rest' := by
  obtain ⟨_, _, hnext, hne, -⟩ := h.first
  exact fun hend => hne (hnext.unique hend).1

theorem Reads.not_endObject {f : Form} {t rest rest' : Text} {v : Value} (h : Reads f t v rest) :
    ¬ Next t .endObject rest' := by
  obtain ⟨_, _, hnext, -, hne⟩ := h.first
  exact fun hend => hne (hnext.unique hend).1

/-- The first token decides which rules can have read a value. -/
theorem Reads.of_next {t more rest : Text} {token : Token} {v : Value} (h : Reads .value t v rest)
    (hnext : Next t token more) :
    token.value? = some v ∧ rest = more ∨
    token = .beginArray ∧ (v = .array [] ∧ Next more .endArray rest ∨ Reads .elements more v rest) ∨
    token = .beginObject ∧
      (v = .object [] ∧ Next more .endObject rest ∨ Reads .members more v rest) := by
  cases h with
  | scalar hnext' hv =>
    obtain ⟨rfl, rfl⟩ := hnext.unique hnext'
    exact .inl ⟨hv, rfl⟩
  | emptyArray hnext' hend =>
    obtain ⟨rfl, rfl⟩ := hnext.unique hnext'
    exact .inr (.inl ⟨rfl, .inl ⟨rfl, hend⟩⟩)
  | array hnext' hread =>
    obtain ⟨rfl, rfl⟩ := hnext.unique hnext'
    exact .inr (.inl ⟨rfl, .inr hread⟩)
  | emptyObject hnext' hend =>
    obtain ⟨rfl, rfl⟩ := hnext.unique hnext'
    exact .inr (.inr ⟨rfl, .inl ⟨rfl, hend⟩⟩)
  | object hnext' hread =>
    obtain ⟨rfl, rfl⟩ := hnext.unique hnext'
    exact .inr (.inr ⟨rfl, .inr hread⟩)

theorem Reads.unique {f : Form} {t rest rest' : Text} {v v' : Value} (h : Reads f t v rest)
    (h' : Reads f t v' rest') : v = v' ∧ rest = rest' := by
  -- The first token tells the rules for values apart, and the one after the opening bracket tells an
  -- empty row from another. In a row the token behind an item says whether it is the last one.
  induction h generalizing v' rest' with
  | scalar hnext hv =>
    obtain ⟨hv', rfl⟩ | ⟨rfl, -⟩ | ⟨rfl, -⟩ := h'.of_next hnext
    · exact ⟨Option.some.inj (hv.symm.trans hv'), rfl⟩
    all_goals simp [Token.value?] at hv
  | emptyArray hnext hend =>
    obtain ⟨hv', -⟩ | ⟨-, ⟨rfl, hend'⟩ | hread'⟩ | ⟨htoken, -⟩ := h'.of_next hnext
    · simp [Token.value?] at hv'
    · exact ⟨rfl, (hend.unique hend').2⟩
    · exact absurd hend hread'.not_endArray
    · cases htoken
  | array hnext hread ih =>
    obtain ⟨hv', -⟩ | ⟨-, ⟨rfl, hend'⟩ | hread'⟩ | ⟨htoken, -⟩ := h'.of_next hnext
    · simp [Token.value?] at hv'
    · exact absurd hend' hread.not_endArray
    · exact ih hread'
    · cases htoken
  | emptyObject hnext hend =>
    obtain ⟨hv', -⟩ | ⟨htoken, -⟩ | ⟨-, ⟨rfl, hend'⟩ | hread'⟩ := h'.of_next hnext
    · simp [Token.value?] at hv'
    · cases htoken
    · exact ⟨rfl, (hend.unique hend').2⟩
    · exact absurd hend hread'.not_endObject
  | object hnext hread ih =>
    obtain ⟨hv', -⟩ | ⟨htoken, -⟩ | ⟨-, ⟨rfl, hend'⟩ | hread'⟩ := h'.of_next hnext
    · simp [Token.value?] at hv'
    · cases htoken
    · exact absurd hend' hread.not_endObject
    · exact ih hread'
  | lastElement _ hend ih =>
    cases h' with
    | lastElement hvalue hend' =>
      obtain ⟨rfl, rfl⟩ := ih hvalue
      exact ⟨rfl, (hend.unique hend').2⟩
    | nextElement hvalue hsep _ =>
      obtain ⟨rfl, rfl⟩ := ih hvalue
      cases (hend.unique hsep).1
  | nextElement _ hsep _ ih ihs =>
    cases h' with
    | lastElement hvalue hend =>
      obtain ⟨rfl, rfl⟩ := ih hvalue
      cases (hsep.unique hend).1
    | nextElement hvalue hsep' hothers =>
      obtain ⟨rfl, rfl⟩ := ih hvalue
      obtain ⟨-, rfl⟩ := hsep.unique hsep'
      obtain ⟨hvs, rfl⟩ := ihs hothers
      cases hvs
      exact ⟨rfl, rfl⟩
  | member hname hcolon _ ih =>
    cases h' with
    | member hname' hcolon' hvalue =>
      obtain ⟨hname, rfl⟩ := hname.unique hname'
      obtain ⟨-, rfl⟩ := hcolon.unique hcolon'
      obtain ⟨rfl, rfl⟩ := ih hvalue
      cases hname
      exact ⟨rfl, rfl⟩
  | lastMember _ hend ih =>
    cases h' with
    | lastMember hmember hend' =>
      obtain ⟨rfl, rfl⟩ := ih hmember
      exact ⟨rfl, (hend.unique hend').2⟩
    | nextMember hmember hsep _ =>
      obtain ⟨-, rfl⟩ := ih hmember
      cases (hend.unique hsep).1
  | nextMember _ hsep _ ih ihs =>
    cases h' with
    | lastMember hmember hend =>
      obtain ⟨-, rfl⟩ := ih hmember
      cases (hsep.unique hend).1
    | nextMember hmember hsep' hothers =>
      obtain ⟨hm, rfl⟩ := ih hmember
      obtain ⟨-, rfl⟩ := hsep.unique hsep'
      obtain ⟨hms, rfl⟩ := ihs hothers
      cases hm
      cases hms
      exact ⟨rfl, rfl⟩

/-- No text has two values: blanks may follow a value, but nothing else. -/
theorem Denotes.unique {t : Text} {v v' : Value} (h : Denotes t v) (h' : Denotes t v') : v = v' := by
  obtain ⟨_, hread, -⟩ := h
  obtain ⟨_, hread', -⟩ := h'
  exact (hread.unique hread').1

end LocalNet.Json
