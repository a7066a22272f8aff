import LocalNet.Proofs.JsonTexts
import LocalNet.Proofs.Memberships
import LocalNet.Proofs.NetworkText
import LocalNet.Proofs.ToolRuns
import LocalNet.Tool.Interfaces

/-!
# Questions about interfaces and their list

The tool for interfaces answers the questions for an address and for a network from what it lists.
The answers can be looked up in its JSON, since different addresses are printed differently in it.

- `First`: the first element of a list with a property;
- `Json.Value.IsNamed`, `Json.Value.Lists`, `Json.Value.ListsOne`: what the objects of the list say;
- `Tool.Interfaces.Listed`: the objects that the tool lists for a host;
- `Source.built_of_system`: the addresses of the running system are told apart by their texts;
- `Tool.interfaces_answers_from_list`: the answers, looked up in the list.
-/

namespace LocalNet

/-! ## First elements -/

/-- The element is the first of the list with a property. -/
def First {α : Type} (p : α → Prop) (l : List α) (a : α) : Prop :=
  p a ∧ ∃ before after, l = before ++ a :: after ∧ ∀ b ∈ before, ¬ p b

section First

variable {α β : Type} {l : List α} {a : α}

theorem First.mem {p : α → Prop} (h : First p l a) : a ∈ l := by
  obtain ⟨-, before, after, rfl, -⟩ := h
  simp

theorem find?_eq_some_iff_first {p : α → Prop} {q : α → Bool} (h : ∀ a, q a = true ↔ p a) :
    l.find? q = some a ↔ First p l a := by
  rw [List.find?_eq_some_iff_append, First, h]
  simp [← h]

/-- The first element is the same for two properties that agree on the list. -/
theorem First.congr {p q : α → Prop} (hpq : ∀ b ∈ l, p b ↔ q b) : First p l a ↔ First q l a := by
  have himp {p q : α → Prop} (hpq : ∀ b ∈ l, p b ↔ q b) (h : First p l a) : First q l a := by
    obtain ⟨ha, before, after, rfl, hbefore⟩ := h
    refine ⟨(hpq a (by simp)).mp ha, before, after, rfl, fun b hb hq => ?_⟩
    exact hbefore b hb ((hpq b (List.mem_append_left _ hb)).mpr hq)
  exact ⟨himp hpq, himp fun b hb => (hpq b hb).symm⟩

theorem first_map_iff {p : β → Prop} {f : α → β} {b : β} :
    First p (l.map f) b ↔ ∃ a, First (fun a => p (f a)) l a ∧ f a = b := by
  constructor
  · rintro ⟨hb, before, after, hl, hbefore⟩
    obtain ⟨before, rest, rfl, rfl, hrest⟩ := List.map_eq_append_iff.mp hl
    obtain ⟨a, after, rfl, rfl, rfl⟩ := List.map_eq_cons_iff.mp hrest
    exact ⟨a, ⟨hb, before, after, rfl, fun a' ha' => hbefore _ (List.mem_map_of_mem ha')⟩, rfl⟩
  · rintro ⟨a, ⟨ha, before, after, rfl, hbefore⟩, rfl⟩
    exact ⟨ha, before.map f, after.map f, by simp, by simpa using hbefore⟩

/-- Some element has the property just if there is a first one. -/
theorem exists_first_iff {p : α → Prop} : (∃ a, First p l a) ↔ ∃ a ∈ l, p a := by
  classical
  constructor
  · rintro ⟨a, ha⟩
    exact ⟨a, ha.mem, ha.1⟩
  · rintro ⟨a, ha, hp⟩
    -- Searching from the front finds the first.
    have hfind : (l.find? fun a => decide (p a)).isSome := by
      simpa using ⟨a, ha, hp⟩
    obtain ⟨b, hb⟩ := Option.isSome_iff_exists.mp hfind
    exact ⟨b, (find?_eq_some_iff_first fun a => decide_eq_true_iff).mp hb⟩

end First

/-! ## Objects -/

namespace Json.Value

/-- The value of the member of an object with a given name. -/
def member? : Value → String → Option Value
  | .object members, name => members.lookup (Text.ofString name)
  | _, _ => none

/-- The object has a name. -/
def IsNamed (name : Text) (v : Value) : Prop :=
  v.member? "name" = some (.string name)

/-- The object lists addresses. -/
def Lists (addresses : List Text) (v : Value) : Prop :=
  v.member? "ip_addresses" = some (.array (addresses.map .string))

/-- The object lists an address among others. -/
def ListsOne (address : Text) (v : Value) : Prop :=
  ∃ addresses, v.Lists addresses ∧ address ∈ addresses

end Json.Value

namespace Interface

variable {i : Interface}

theorem isNamed_value {name : Text} : i.value.IsNamed name ↔ i.name = name := by
  have hmember : i.value.member? "name" = some (.string i.name) := rfl
  rw [Json.Value.IsNamed, hmember]
  simp

theorem lists_value (hne : i.addresses ≠ []) {addresses : List Text} :
    i.value.Lists addresses ↔ i.addressTexts = addresses := by
  have hfilled : i.addresses.isEmpty = false := List.isEmpty_eq_false_iff.mpr hne
  have hmember : i.value.member? "ip_addresses" =
      some (.array (i.addressTexts.map .string)) := by
    rw [value, hfilled]
    rfl
  have hstring : Function.Injective Json.Value.string := fun _ _ h => Json.Value.string.inj h
  rw [Json.Value.Lists, hmember, Option.some.injEq, Json.Value.array.injEq,
    hstring.list_map.eq_iff]

end Interface

/-! ## Interfaces of the running system -/

/-- Addresses that octets give are told apart by their texts. -/
theorem Address.Built.toText_eq_iff {a b : Address} (ha : a.Built) (hb : b.Built) :
    a.toText = b.toText ↔ a = b := by
  refine ⟨fun h => ?_, fun h => h ▸ rfl⟩
  have hread := ha.parse?_toText
  rw [h, hb.parse?_toText] at hread
  exact (Option.some.inj hread).symm

/-- The text of a network with a mask is the text of its address, a slash and more. -/
theorem Network.exists_toText_eq {n : Network} (hmask : n.mask.isEmpty = false) :
    ∃ suffix, n.toText = n.address.toText ++ Text.ofString "/" ++ suffix := by
  rw [toText, hmask]
  exact ⟨_, rfl⟩

namespace Source

variable {h : Host} {found : List Interface} {i : Interface}

/-- The addresses that are found at the running system are made of octets, and the masks beside them
say something. -/
theorem built_of_system (hfound : (system.interfaces h).1 = .ok found) (hi : i ∈ found) :
    ∀ n ∈ i.networks, n.address.Built ∧ n.mask.isEmpty = false := by
  obtain ⟨listings, l, hsurvey, hl, hsound, -, rfl⟩ := Survey.exists_listing_of_mem hfound hi
  rintro _ hn
  obtain ⟨e, he, rfl⟩ := List.mem_map.mp hn
  rw [Listing.kept_eq] at he
  obtain ⟨he, -⟩ := List.mem_filter.mp he
  -- The entry comes from a record of the host and is no remark.
  obtain ⟨r, hr⟩ := Host.exists_entry?_of_mem_known hsurvey hl he
  have hshape := hsound.wellShaped e he
  refine ⟨AddressRecord.built_of_entry? hr hshape.other_eq, ?_⟩
  rw [Bool.eq_false_iff, Ne, Mask.isEmpty_iff]
  exact hshape.mask_ne

/-- What an enumeration finds has addresses, each with its network. -/
theorem shown_of_interfaces {source : Source} (hfound : (source.interfaces h).1 = .ok found)
    (hi : i ∈ found) :
    i.addresses ≠ [] ∧ i.networks.map Network.address = i.addresses := by
  obtain ⟨-, l, -, -, -, hlistens, rfl⟩ := Survey.exists_listing_of_mem hfound hi
  obtain ⟨-, hne, hpaired, -⟩ := Listing.shown_of_listens hlistens
  exact ⟨hne, hpaired⟩

/-- The interface of an address is the first that has it. -/
theorem interfaceOf_eq_some_iff {source : Source} {a : Address} {name : Text} :
    (source.interfaceOf a h).1 = some name ↔ ∃ found i, (source.interfaces h).1 = .ok found ∧
      First (a ∈ ·.addresses) found i ∧ i.name = name := by
  have hcontains (i : Interface) : i.addresses.contains a = true ↔ a ∈ i.addresses :=
    List.contains_iff_mem
  change Survey.interfaceOf (source h).1 a = some name ↔ ∃ found i,
    (source h).1.interfaces = .ok found ∧ _
  rw [Survey.interfaceOf]
  cases (source h).1.interfaces with
  | error fault => simp
  | ok found => simp [← find?_eq_some_iff_first hcontains]

/-- The network of a name is the first one of the first interface with this name. -/
theorem networkOf_eq_some_iff {source : Source} {name : Text} {n : Network} :
    (source.networkOf name h).1 = some n ↔ ∃ found i, (source.interfaces h).1 = .ok found ∧
      First (·.name = name) found i ∧ i.networks.head? = some n := by
  have hnamed (i : Interface) : (i.name == name) = true ↔ i.name = name := beq_iff_eq
  constructor
  · intro hnetwork
    obtain ⟨-, found, i, hfound, hi, hhead, -⟩ := networkOf_eq_some hnetwork
    exact ⟨found, i, hfound, (find?_eq_some_iff_first hnamed).mp hi, hhead⟩
  · rintro ⟨found, i, hfound, hi, hhead⟩
    have hfirst := (find?_eq_some_iff_first hnamed).mpr hi
    have hsurvey : (source h).1.interfaces = .ok found := hfound
    simp [networkOf, Survey.networkOf, hsurvey, Except.map, hfirst, hhead]

end Source

/-! ## Answers -/

namespace Tool

open Arguments

theorem interfaces_distinct : interfaces.Distinct where
  keys := by decide
  flags := by decide

namespace Interfaces

/-- The objects in the JSON that the tool prints about a host. -/
def Listed (h : Host) (objects : List Json.Value) : Prop :=
  let result := (interfaces.run [Text.ofString "--json"] h).1
  result.exitCode = 0 ∧ Json.Denotes result.stdout (.array objects)

/-- A run with a single group is answered from it. -/
theorem run_group {d : FlagDefinition Key} (hd : d ∈ definitions) (hhelp : d.key ≠ .help)
    (hlevel : d.key ≠ .logLevel) (values : List Text) (hvalues : values.length = d.arity)
    (h : Host) : ∃ known : Arguments Key,
      (∀ key, known.get? key = if d.key = key then some values else none) ∧
        interfaces.run (d.flag :: values) h = answer known h := by
  have hrequired : ∀ d ∈ interfaces.definitions, d.required = false := by decide
  obtain ⟨known, hkept, hrun⟩ := run_words (g := ⟨d, values, hvalues⟩) interfaces_distinct hrequired
    hd hhelp hlevel h
  refine ⟨known, fun key => ?_, hrun⟩
  rw [hkept.get?_eq, last?]
  by_cases hkey : d.key = key <;> simp [Group.key, hkey]

theorem run_byAddress (text : Text) (h : Host) :
    interfaces.run [Text.ofString "--by-ip", text] h = runByAddress text h := by
  obtain ⟨known, hknown, hrun⟩ := run_group
    (d := define .byAddress "--by-ip" 1 "Name the interface that owns an IP")
    (by simp [definitions]) (by decide) (by decide) [text] rfl h
  refine hrun.trans ?_
  simp [answer, Arguments.value?, hknown, define]

theorem run_network (name : Text) (h : Host) :
    interfaces.run [Text.ofString "--subnet", name] h = runNetwork name h := by
  obtain ⟨known, hknown, hrun⟩ := run_group
    (d := define .network "--subnet" 1 "Show the first subnet of an interface")
    (by simp [definitions]) (by decide) (by decide) [name] rfl h
  refine hrun.trans ?_
  simp [answer, Arguments.value?, hknown, define]

theorem run_json (h : Host) :
    interfaces.run [Text.ofString "--json"] h = runList true false h := by
  obtain ⟨known, hknown, hrun⟩ := run_group
    (d := define .json "--json" 0 "Output in JSON format") (by simp [definitions]) (by decide)
    (by decide) [] rfl h
  refine hrun.trans ?_
  simp [answer, Arguments.value?, Arguments.has, hknown, define]

/-- What is listed about a host describes the interfaces that are found, one by one. -/
theorem listed_iff {h : Host} {objects : List Json.Value} : Listed h objects ↔
    ∃ found, (Source.system.interfaces h).1 = .ok found ∧ found.map Interface.value = objects := by
  unfold Listed
  rw [run_json, runList]
  rcases Source.system.interfaces h with ⟨fault | found, h'⟩
  · simp [ToolResult.error, ToolResult.failure]
  · have hspells := Json.spells_block (Json.forall₂_spells Interface.spells_toJson found)
    simp only [ToolResult.line, if_true, true_and, Except.ok.injEq, exists_eq_left',
      Interface.listToJson, hspells.denotes_line_iff, Json.Value.array.injEq]
    exact eq_comm

/-- The question for an address is answered with the name of the interface that has it. -/
theorem answers_byAddress_iff {text name : Text} {h : Host} :
    ((runByAddress text h).1.exitCode = 0 ∧
        (runByAddress text h).1.stdout = name ++ Text.ofString "\n") ↔
      ∃ a, Address.parse? text = some a ∧ (Source.system.interfaceOf a h).1 = some name := by
  unfold runByAddress
  cases Address.parse? text with
  | none => simp [ToolResult.error, ToolResult.failure]
  | some a =>
    rcases hfound : Source.system.interfaceOf a h with ⟨_ | found, h'⟩
    · simp [hfound, ToolResult.failure]
    · simp [hfound, ToolResult.line]

/-- The question for a network is answered with the network, or it fails. -/
theorem runNetwork_cases (name : Text) (h : Host) :
    (∃ network : Network, (Source.system.networkOf name h).1 = some network ∧
        (runNetwork name h).1 = .line network.toText) ∨
      (Source.system.networkOf name h).1 = none ∧ (runNetwork name h).1.exitCode = 1 := by
  unfold runNetwork
  rcases Source.system.networkOf name h with ⟨_ | network, h'⟩
  · exact .inr ⟨rfl, rfl⟩
  · exact .inl ⟨network, rfl, rfl⟩

/-- An object that is listed lists an address just if its interface has the address. -/
theorem listsOne_value_iff {h : Host} {found : List Interface} {i : Interface} {a : Address}
    (hfound : (Source.system.interfaces h).1 = .ok found) (hi : i ∈ found) (ha : a.Built) :
    i.value.ListsOne a.toText ↔ a ∈ i.addresses := by
  obtain ⟨hne, hpaired⟩ := Source.shown_of_interfaces hfound hi
  -- Both addresses are made of octets, so that their texts decide.
  have hbuilt : ∀ b ∈ i.addresses, b.Built := by
    rw [← hpaired]
    exact List.forall_mem_map.mpr fun n hn => (Source.built_of_system hfound hi n hn).1
  simp only [Json.Value.ListsOne, Interface.lists_value hne, exists_eq_left',
    Interface.addressTexts, List.mem_map]
  constructor
  · rintro ⟨b, hb, htext⟩
    rwa [← ((hbuilt b hb).toText_eq_iff ha).mp htext]
  · exact fun hmem => ⟨a, hmem, rfl⟩

/-- The question for an address, looked up in the list. -/
theorem run_byAddress_iff {text name : Text} {h : Host} :
    ((runByAddress text h).1.exitCode = 0 ∧
        (runByAddress text h).1.stdout = name ++ Text.ofString "\n") ↔
      ∃ a objects object, Address.parse? text = some a ∧ Listed h objects ∧
        First (·.ListsOne a.toText) objects object ∧ object.IsNamed name := by
  rw [answers_byAddress_iff]
  -- The search compares addresses and the list has texts: both tell the same interfaces apart.
  constructor
  · rintro ⟨a, ha, hname⟩
    obtain ⟨found, i, hfound, hi, rfl⟩ := Source.interfaceOf_eq_some_iff.mp hname
    have hlists := fun i hi => listsOne_value_iff (i := i) hfound hi (Address.Built.of_parse? ha)
    refine ⟨a, _, i.value, ha, listed_iff.mpr ⟨found, hfound, rfl⟩, ?_,
      Interface.isNamed_value.mpr rfl⟩
    exact first_map_iff.mpr ⟨i, (First.congr hlists).mpr hi, rfl⟩
  · rintro ⟨a, objects, object, ha, hlisted, hobject, hname⟩
    obtain ⟨found, hfound, rfl⟩ := listed_iff.mp hlisted
    obtain ⟨i, hi, rfl⟩ := first_map_iff.mp hobject
    have hlists := fun i hi => listsOne_value_iff (i := i) hfound hi (Address.Built.of_parse? ha)
    refine ⟨a, ha, Source.interfaceOf_eq_some_iff.mpr ⟨found, i, hfound, ?_, ?_⟩⟩
    · exact (First.congr hlists).mp hi
    · exact Interface.isNamed_value.mp hname

/-- The network that is printed for a name, looked up in the list. -/
theorem exists_first_of_networkOf {name : Text} {h : Host} {network : Network}
    (hnetwork : (Source.system.networkOf name h).1 = some network) :
    ∃ objects object others suffix, Listed h objects ∧ First (·.IsNamed name) objects object ∧
      object.Lists (network.address.toText :: others) ∧
      network.toText = network.address.toText ++ Text.ofString "/" ++ suffix := by
  obtain ⟨found, i, hfound, hi, hhead⟩ := Source.networkOf_eq_some_iff.mp hnetwork
  obtain ⟨hne, hpaired⟩ := Source.shown_of_interfaces hfound hi.mem
  obtain ⟨-, hmask⟩ := Source.built_of_system hfound hi.mem network (List.mem_of_head? hhead)
  obtain ⟨suffix, hsuffix⟩ := Network.exists_toText_eq hmask
  obtain ⟨others, hothers⟩ := List.head?_eq_some_iff.mp hhead
  have htexts : i.addressTexts =
      network.address.toText :: others.map fun n => n.address.toText := by
    simp [Interface.addressTexts, ← hpaired, hothers]
  refine ⟨_, i.value, _, suffix, listed_iff.mpr ⟨found, hfound, rfl⟩, ?_,
    (Interface.lists_value hne).mpr htexts, hsuffix⟩
  exact first_map_iff.mpr ⟨i, (First.congr fun _ _ => Interface.isNamed_value).mpr hi, rfl⟩

/-- There is a network for every name in the list. -/
theorem exists_networkOf_of_listed {name : Text} {h : Host} {objects : List Json.Value}
    {object : Json.Value} (hlisted : Listed h objects) (hmem : object ∈ objects)
    (hname : object.IsNamed name) :
    ∃ network, (Source.system.networkOf name h).1 = some network := by
  obtain ⟨found, hfound, rfl⟩ := listed_iff.mp hlisted
  obtain ⟨i, hi, rfl⟩ := List.mem_map.mp hmem
  have hnamed : ∃ i ∈ found, i.name = name := ⟨i, hi, Interface.isNamed_value.mp hname⟩
  obtain ⟨first, hfirst⟩ := exists_first_iff.mpr hnamed
  obtain ⟨hne, hpaired⟩ := Source.shown_of_interfaces hfound hfirst.mem
  -- An interface that is found has an address, and so a network.
  have hnetworks : first.networks ≠ [] := by
    rintro hnil
    rw [hnil] at hpaired
    exact hne hpaired.symm
  exact ⟨_, Source.networkOf_eq_some_iff.mpr
    ⟨found, first, hfound, hfirst, List.head?_eq_some_head hnetworks⟩⟩

end Interfaces

open Interfaces in
/-- The questions for an address and for a network are answered from what is listed. A name is
printed for a text just if the text is an address, the interfaces can be listed, and the first
object in the list that has this address has this name. There is a network just for the names in the
list, and what is printed for one is the first address of its first object, a slash and the rest of
a network. -/
theorem interfaces_answers_from_list (h : Host) :
    (∀ text name : Text,
      let answer := (interfaces.run [Text.ofString "--by-ip", text] h).1
      (answer.exitCode = 0 ∧ answer.stdout = name ++ Text.ofString "\n") ↔
        ∃ a objects object, Address.parse? text = some a ∧ Listed h objects ∧
          First (·.ListsOne a.toText) objects object ∧ object.IsNamed name) ∧
    ∀ name : Text,
      let answer := (interfaces.run [Text.ofString "--subnet", name] h).1
      (answer.exitCode = 0 ↔
        ∃ objects object, Listed h objects ∧ object ∈ objects ∧ object.IsNamed name) ∧
      (answer.exitCode = 0 → ∃ objects object address others suffix,
        Listed h objects ∧ First (·.IsNamed name) objects object ∧
          object.Lists (address :: others) ∧ '/'.toUInt8 ∉ address ∧
          ∃ network : Network, network.toText = address ++ Text.ofString "/" ++ suffix ∧
            answer.stdout = network.toText ++ Text.ofString "\n") := by
  constructor
  · intro text name
    simp only [run_byAddress, run_byAddress_iff]
  · intro name
    simp only [run_network]
    rcases runNetwork_cases name h with ⟨network, hnetwork, hanswer⟩ | ⟨hnone, hcode⟩
    · obtain ⟨objects, object, others, suffix, hlisted, hfirst, hlists, htext⟩ :=
        exists_first_of_networkOf hnetwork
      rw [hanswer]
      refine ⟨?_, fun _ => ?_⟩
      · exact iff_of_true rfl ⟨objects, object, hlisted, hfirst.mem, hfirst.1⟩
      · exact ⟨objects, object, _, others, suffix, hlisted, hfirst, hlists,
          network.address.slash_notMem_toText, network, htext, rfl⟩
    · have hfails : (runNetwork name h).1.exitCode ≠ 0 := by simp [hcode]
      refine ⟨iff_of_false hfails ?_, fun hzero => absurd hzero hfails⟩
      rintro ⟨objects, object, hlisted, hmem, hname⟩
      obtain ⟨network, hnetwork⟩ := exists_networkOf_of_listed hlisted hmem hname
      exact absurd (hnone.symm.trans hnetwork) nofun

/-- The listed address is found in the notation of IPv6 as well. -/
theorem interfaces_answers_from_list_mapped :
    let answer := (interfaces.run [Text.ofString "--by-ip", Text.ofString "::FFFF:192.0.2.33"]
      mappedAddress).1
    answer.exitCode = 0 ∧ answer.stdout = Text.ofString "wg0" ++ Text.ofString "\n" := by
  obtain ⟨i, hfound, haddresses, hname⟩ : ∃ i : Interface,
      (Source.system.interfaces mappedAddress).1 = .ok [i] ∧
        i.addresses = [Address.v4 192 0 2 33] ∧ i.name = Text.ofString "wg0" := ⟨_, rfl, rfl, rfl⟩
  have hlisted : Interfaces.Listed mappedAddress [i.value] :=
    Interfaces.listed_iff.mpr ⟨[i], hfound, rfl⟩
  have hlists : i.value.ListsOne (Address.v4 192 0 2 33).toText :=
    ⟨_, (Interface.lists_value (by simp [haddresses])).mpr rfl,
      by simp [Interface.addressTexts, haddresses]⟩
  refine ((interfaces_answers_from_list mappedAddress).1 _ _).mpr
    ⟨_, [i.value], i.value, rfl, hlisted, ⟨hlists, [], [], rfl, nofun⟩, ?_⟩
  exact Interface.isNamed_value.mpr hname

end Tool

end LocalNet
