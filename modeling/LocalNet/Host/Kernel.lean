import LocalNet.Address.Parser
import LocalNet.Address.Printer
import LocalNet.Interface.LinkAddress

/-!
# Tables of the kernel

A Linux kernel describes itself in tables that are read like files. From three of them a program
learns what it would otherwise have to ask for:

- `Kernel.linkNames`: the links, from the table of their traffic;
- `Kernel.effectiveUser`, `Kernel.effectiveCapabilities`: from the table of the process;
- `Kernel.defaultRoute`: the default route of a link, as the routing command prints it.
-/

namespace LocalNet.Kernel

/-- The names in the table of links. Two lines of headings precede a line for each link, which
starts with the name and a colon. -/
def linkNames (table : Text) : List Text :=
  (table.lines.drop 2).filterMap fun line =>
    (Text.cutFirst? ':'.toUInt8 line).map fun (name, _) => name.trim

/-- What follows a title in the table of a process. -/
def statusFields (title : String) (table : Text) : List Text :=
  match (table.lines.map Text.fields).find? (·.head? == some (Text.ofString title)) with
  | some fields => fields.tail
  | none => []

/-- The effective user of a process: the second of its four users. -/
def effectiveUser (table : Text) : Option Nat :=
  (statusFields "Uid:" table)[1]?.bind Decimal.nat?

/-- The effective capabilities of a process, in hexadecimal. -/
def effectiveCapabilities (table : Text) : Option UInt64 := do
  let numeral ← (statusFields "CapEff:" table).head?
  let digits ← numeral.mapM Hex.digit?
  return (digits.foldl (fun n d => 16 * n + d) 0).toUInt64

/-- The address that a word in the table of routes stands for. The word is written as a number of
which the low octet comes first in the address. -/
def routeAddress? : Text → Option Address
  | [a, b, c, d, e, f, g, h] => do
    return Address.v4 (← LinkAddress.pair? [g, h]) (← LinkAddress.pair? [e, f])
      (← LinkAddress.pair? [c, d]) (← LinkAddress.pair? [a, b])
  | _ => none

/-- The gateway in a line of the table of routes, if the line is about the default route of the
given link. -/
def gatewayOfRoute? (name line : Text) : Option Address :=
  match line.fields with
  | link :: destination :: gateway :: _ =>
    if link = name ∧ destination = Text.ofString "00000000" then
      (routeAddress? gateway).filter (!·.isUnspecified)
    else none
  | _ => none

/-- What the routing command prints about the default route of a link; nothing if there is none. -/
def defaultRoute (table name : Text) : Text :=
  match table.lines.findSome? (gatewayOfRoute? name) with
  | some gateway =>
    Text.ofString "default via " ++ gateway.toText ++ Text.ofString " dev " ++ name
      ++ Text.ofString "\n"
  | none => []

end LocalNet.Kernel
