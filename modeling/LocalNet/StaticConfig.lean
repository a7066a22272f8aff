import LocalNet.Network

/-!
# Static addresses in configuration files

Two kinds of files say that an interface has a static address.

- In the file of the DHCP client a line `interface NAME` opens a section, which lasts until the next
  such line. The interface is static if a line of its section starts with `static ip_address=`.
- In the file of interface definitions it is static if a line starts with the four fields `iface`,
  the name, `inet` and `static`.

`StaticConfig.stanza` writes a section for the first kind.
-/

namespace LocalNet.StaticConfig

/-- The start of a line that sets a static address. -/
def directive : Text := Text.ofString "static ip_address="

/-- Looks for a static address among trimmed lines; `inSection` says whether the section of the
interface is open. -/
def findStatic (name : Text) : Bool → List Text → Bool
  | _, [] => false
  | inSection, line :: others =>
    match line.fields with
    | [] => findStatic name inSection others
    | first :: more =>
      if line.head? = some '#'.toUInt8 then findStatic name inSection others
      else if first = Text.ofString "interface" then
        findStatic name (more.head? == some name) others
      else if inSection && directive.isPrefixOf line then true
      else findStatic name inSection others

/-- Whether the file of the DHCP client sets a static address for an interface. -/
def clientHasStatic (text name : Text) : Bool :=
  findStatic name false (text.lines.map Text.trim)

/-- Whether the file of interface definitions defines an interface as static. -/
def definitionsHaveStatic (text name : Text) : Bool :=
  let definition := [Text.ofString "iface", name, Text.ofString "inet", Text.ofString "static"]
  text.lines.any fun line => definition.isPrefixOf line.fields

/-- The section that makes the address of an interface static, between empty lines. The router is
left out if none is known. -/
def stanza (name : Text) (network : Network) (gateway : Option Address) (dns : Address) : Text :=
  let router :=
    match gateway with
    | some address => Text.ofString "static routers=" ++ address.toText ++ Text.ofString "\n"
    | none => []
  Text.ofString "\n# " ++ name ++ Text.ofString " added by hostnet.\n"
    ++ Text.ofString "interface " ++ name ++ Text.ofString "\n"
    ++ directive ++ network.toText ++ Text.ofString "\n"
    ++ router
    ++ Text.ofString "static domain_name_servers=" ++ dns.toText ++ Text.ofString "\n\n"

end LocalNet.StaticConfig
