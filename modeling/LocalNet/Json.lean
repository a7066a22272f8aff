import LocalNet.Text
import LocalNet.Hex

/-!
# JSON texts

- `Json.escape`: what stands between the quotes of a string;
- `Json.quoted`: a string;
- `Json.plain`: a string that is known to need no escape;
- `Json.array`, `Json.object`: a list and a record on one line, from the texts of their members;
- `Json.block`: a list with a line for each member.

Octets from 0x80 on are copied, so the output is UTF-8 if the input is.
-/

namespace LocalNet.Json

/-- The escaped form of one octet: quotes, backslashes and control octets are escaped. -/
def escapeOctet (c : UInt8) : Text :=
  if c = '"'.toUInt8 then Text.ofString "\\\""
  else if c = '\\'.toUInt8 then Text.ofString "\\\\"
  else if c = '\n'.toUInt8 then Text.ofString "\\n"
  else if c = '\r'.toUInt8 then Text.ofString "\\r"
  else if c = '\t'.toUInt8 then Text.ofString "\\t"
  else if c < 0x20 then Text.ofString "\\u00" ++ Hex.octet c
  else [c]

/-- What stands between the quotes of a string. -/
def escape (t : Text) : Text :=
  t.flatMap escapeOctet

/-- A string. -/
def quoted (t : Text) : Text :=
  Text.ofString "\"" ++ escape t ++ Text.ofString "\""

/-- A string of octets that are copied as they are. -/
def plain (t : Text) : Text :=
  Text.ofString "\"" ++ t ++ Text.ofString "\""

/-- A list on one line. -/
def array (members : List Text) : Text :=
  Text.ofString "[" ++ (Text.ofString ", ").intercalate members ++ Text.ofString "]"

/-- A list of strings on one line. -/
def strings (items : List Text) : Text :=
  array (items.map quoted)

/-- A name and a value of a record. -/
def member (name : String) (value : Text) : Text :=
  Text.ofString "\"" ++ Text.ofString name ++ Text.ofString "\": " ++ value

/-- A record on one line. -/
def object (members : List Text) : Text :=
  Text.ofString "\x7b" ++ (Text.ofString ", ").intercalate members ++ Text.ofString "\x7d"

/-- A list with a line for each member. -/
def block (members : List Text) : Text :=
  if members.isEmpty then Text.ofString "[]"
  else
    Text.ofString "[\n  " ++ (Text.ofString ",\n  ").intercalate members ++ Text.ofString "\n]"

end LocalNet.Json
