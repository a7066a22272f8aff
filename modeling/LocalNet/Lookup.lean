import LocalNet.Enumeration
import LocalNet.Host.Survey

/-!
# Questions to a source of surveys

Each question makes a survey of its own. Only a failure of the question for a network is logged.
-/

namespace LocalNet.Source

/-- The interfaces at which a program can listen. -/
def interfaces (source : Source) (h : Host) : Except Fault (List Interface) × Host :=
  let (survey, h) := source h
  (survey.interfaces, h)

/-- The name of the interface that has an address. -/
def interfaceOf (source : Source) (a : Address) (h : Host) : Option Text × Host :=
  let (survey, h) := source h
  (Survey.interfaceOf survey a, h)

/-- The first network of an interface. -/
def networkOf (source : Source) (name : Text) (h : Host) : Option Network × Host :=
  let (survey, h) := source h
  match Survey.networkOf survey name with
  | .ok network => (network, h)
  | .error fault =>
    (none,
      h.record .error (Text.ofString "Could not get network interfaces info: " ++ fault.toText))

/-- The list of the addresses of all links. -/
def addressList (source : Source) (h : Host) : AddressList × Host :=
  let (survey, h) := source h
  (survey.addresses, h)

/-- The printed addresses of all links, or why there are none. -/
def addresses (source : Source) (h : Host) : Except Fault (List Text) × Host :=
  let (found, h) := source.addressList h
  (found.toExcept, h)

end LocalNet.Source
