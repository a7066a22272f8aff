import LocalNet.Proofs.Interfaces
import LocalNet.Proofs.Storage
import Mathlib.Data.List.Forall2
import Mathlib.Data.List.Perm.Basic
import Mathlib.Data.List.TakeWhile

/-!
# Which interface an address belongs to

The host keeps one list with the addresses of all links. The survey of the running system finds each
address under one link, the one whose name stands before the first colon of its label.

- `AddressRecord.holder?`: the name of that link;
- `AddressRecord.Describes`: the entry of a record;
- `AddressRecord.filterMap_entry?_belongsTo`: the test that the survey makes of a record agrees with
  that name;
- `Source.system_attributes`: each link has the entries of its own records in their order, and all
  links together those of the records that are about one of them.
-/

namespace LocalNet

namespace AddressRecord

/-- The name of the link that has the address of a record: the label up to its first colon. There is
none if the label is missing or the address is not one of IPv4 or IPv6. -/
def holder? (r : AddressRecord) : Option Text :=
  match r.address with
  | some (.inet _) | some (.inet6 _) => r.label.map fun label => label.takeWhile (· != ':'.toUInt8)
  | some (.other _) | none => none

/-- What an entry says of an address without a mask. -/
def maskless (a : Address) : Entry where
  network := default
  other := some (a.toText ++ Text.ofString " without a matching netmask")

/-- An entry describes a record: by the address and its mask if there is a mask of the same family,
and by a remark otherwise. -/
inductive Describes : AddressRecord → Entry → Prop
  /-- An IPv4 address with its mask. -/
  | inet (label : Option Text) (a m : Vector UInt8 4) :
    Describes ⟨label, some (.inet a), some (.inet m)⟩
      { network := ⟨Address.ofOctets a.toList, Mask.ofOctets m.toList⟩ }
  /-- An IPv6 address with its mask. -/
  | inet6 (label : Option Text) (a m : Vector UInt8 16) :
    Describes ⟨label, some (.inet6 a), some (.inet6 m)⟩
      { network := ⟨Address.ofOctets a.toList, Mask.ofOctets m.toList⟩ }
  /-- An IPv4 address without a mask of IPv4. -/
  | inetOnly (label : Option Text) (a : Vector UInt8 4) {mask : Option SocketAddress}
      (hmask : ∀ m, mask ≠ some (.inet m)) :
    Describes ⟨label, some (.inet a), mask⟩ (maskless (Address.ofOctets a.toList))
  /-- An IPv6 address without a mask of IPv6. -/
  | inet6Only (label : Option Text) (a : Vector UInt8 16) {mask : Option SocketAddress}
      (hmask : ∀ m, mask ≠ some (.inet6 m)) :
    Describes ⟨label, some (.inet6 a), mask⟩ (maskless (Address.ofOctets a.toList))

/-- A record that a link has is described by its entry. -/
theorem describes_of_holder? {r : AddressRecord} {name : Text} (h : r.holder? = some name) :
    ∃ e, r.entry? = some e ∧ r.Describes e := by
  obtain ⟨label, address, mask⟩ := r
  -- An entry is made from the family of the address, and then from whether the mask has it too.
  rcases address with _ | a | a | family
  · cases h
  · rcases mask with _ | m | m | family
    · exact ⟨_, rfl, .inetOnly label a nofun⟩
    · exact ⟨_, by unfold entry?; simp [SocketAddress.octets?], .inet label a m⟩
    · exact ⟨_, by unfold entry?; simp [SocketAddress.octets?]; rfl, .inetOnly label a nofun⟩
    · exact ⟨_, rfl, .inetOnly label a nofun⟩
  · rcases mask with _ | m | m | family
    · exact ⟨_, rfl, .inet6Only label a nofun⟩
    · exact ⟨_, by unfold entry?; simp [SocketAddress.octets?]; rfl, .inet6Only label a nofun⟩
    · exact ⟨_, by unfold entry?; simp [SocketAddress.octets?], .inet6 label a m⟩
    · exact ⟨_, rfl, .inet6Only label a nofun⟩
  · cases h

/-- A label is about the link whose name stands before its first colon. -/
theorem label_iff {name : Text} (hcolon : ':'.toUInt8 ∉ name) (label : Text) :
    (label == name || (name ++ [':'.toUInt8]).isPrefixOf label) = true ↔
      label.takeWhile (· != ':'.toUInt8) = name := by
  have hname : ∀ c ∈ name, (c != ':'.toUInt8) = true := by
    intro c hc
    exact bne_iff_ne.mpr fun heq => hcolon (heq ▸ hc)
  rw [Bool.or_eq_true, beq_iff_eq, List.isPrefixOf_iff_prefix]
  constructor
  · rintro (rfl | ⟨rest, rfl⟩)
    · exact List.takeWhile_eq_self_iff.mpr hname
    · rw [List.append_assoc, List.takeWhile_append_of_pos hname]
      simp
  · rintro rfl
    have hlabel := List.takeWhile_append_dropWhile (p := (· != ':'.toUInt8)) (l := label)
    -- What follows the name either is nothing or starts with the colon.
    cases hrest : label.dropWhile (· != ':'.toUInt8) with
    | nil =>
      left
      rw [hrest, List.append_nil] at hlabel
      exact hlabel.symm
    | cons c rest =>
      right
      have hc : c = ':'.toUInt8 := by
        simpa [hrest] using List.head?_dropWhile_not (· != ':'.toUInt8) label
      refine ⟨rest, ?_⟩
      rw [hrest, hc] at hlabel
      rw [List.append_assoc, List.singleton_append, hlabel]

/-- The record of an address belongs to the link that has the address, and no other record makes an
entry. -/
theorem filterMap_entry?_belongsTo {name : Text} (hcolon : ':'.toUInt8 ∉ name)
    (records : List AddressRecord) :
    (records.filter (·.belongsTo name)).filterMap entry? =
      (records.filter (·.holder? == some name)).filterMap entry? := by
  rw [List.filterMap_filter, List.filterMap_filter]
  congr 1
  funext r
  obtain ⟨label, address, mask⟩ := r
  have hlabel : belongsTo name ⟨label, address, mask⟩ =
      (label.map (fun label => label.takeWhile (· != ':'.toUInt8)) == some name) := by
    rw [Bool.eq_iff_iff]
    cases label with
    | none => simp [belongsTo]
    | some label => simpa [belongsTo] using label_iff hcolon label
  rw [hlabel]
  unfold holder?
  rcases address with _ | a | a | family
  · -- Without an address there is neither a link nor an entry.
    unfold entry?
    simp
  · simp only
  · simp only
  · unfold entry?
    simp [SocketAddress.octets?]

/-- The entries of records that have a link describe them one by one. -/
theorem forall₂_describes {records : List AddressRecord}
    (h : ∀ r ∈ records, ∃ name, r.holder? = some name) :
    List.Forall₂ Describes records (records.filterMap entry?) := by
  induction records with
  | nil => exact .nil
  | cons r records ih =>
    obtain ⟨⟨name, hname⟩, hrecords⟩ := List.forall_mem_cons.mp h
    obtain ⟨e, he, hdescribes⟩ := describes_of_holder? hname
    rw [List.filterMap_cons_some he]
    exact .cons hdescribes (ih hrecords)

end AddressRecord

/-! ## Parts of a list by a key -/

/-- The parts of a list that belong to different keys make up the part that belongs to any of
them. -/
theorem flatMap_filter_perm {α β : Type} [BEq β] [LawfulBEq β] (key : α → Option β) {keys : List β}
    (hkeys : keys.Nodup) (xs : List α) :
    (keys.flatMap fun k => xs.filter (key · == some k)).Perm
      (xs.filter fun x => keys.any fun k => key x == some k) := by
  induction keys with
  | nil => simp
  | cons k keys ih =>
    obtain ⟨hk, hkeys⟩ := List.nodup_cons.mp hkeys
    -- The part of the first key comes off, and what is left has none of its elements.
    have hparts := List.filter_append_perm (key · == some k)
      (xs.filter fun x => (k :: keys).any fun k => key x == some k)
    rw [List.filter_filter, List.filter_filter] at hparts
    have hfirst : (xs.filter fun x =>
        key x == some k && (k :: keys).any fun k => key x == some k) =
          xs.filter (key · == some k) := by
      refine List.filter_congr fun x _ => ?_
      cases hx : key x == some k <;> simp [hx]
    have hothers : (xs.filter fun x =>
        !(key x == some k) && (k :: keys).any fun k => key x == some k) =
          xs.filter fun x => keys.any fun k => key x == some k := by
      refine List.filter_congr fun x _ => ?_
      cases hx : key x == some k with
      | false => simp [hx]
      | true =>
        have hnone : (keys.any fun k' => key x == some k') = false := by
          rw [eq_of_beq hx, List.any_eq_false]
          rintro k' hk' heq
          obtain rfl : k = k' := by simpa using heq
          exact hk hk'
        simp [hx, hnone]
    rw [hfirst, hothers] at hparts
    rw [List.flatMap_cons]
    exact ((ih hkeys).append_left _).trans hparts

/-! ## Surveys of the running system -/

/-- The entries of a listing, none if they are not known. -/
def Listing.known (l : Listing) : List Entry :=
  l.entries.toOption.getD []

/-- What is kept of a listing are its known entries that are not link-local. -/
theorem Listing.kept_eq (l : Listing) :
    l.kept = l.known.filter fun e => !e.network.address.isLinkLocal := by
  obtain ⟨link, entries⟩ := l
  cases entries with
  | error fault => rfl
  | ok entries =>
    refine List.filter_congr fun e _ => ?_
    rw [Address.isLinkLocal_eq]

/-- The known entries of a listing with which nothing is wrong are all well-shaped. -/
theorem Listing.Sound.wellShaped {l : Listing} (h : l.Sound) : ∀ e ∈ l.known, e.WellShaped := by
  obtain ⟨link, answer⟩ := l
  obtain ⟨entries, rfl, hshaped⟩ := h
  exact hshaped

/-- The names of the links that a host lists. The number 0 ends the list. -/
def listedNames (links : List (Nat × Text)) : List Text :=
  (links.takeWhile (·.1 != 0)).map Prod.snd

namespace Host

variable {h : Host} {records : List AddressRecord}

theorem name_describeLink (index : Nat) (name : Text) (h : Host) :
    (h.describeLink index name).1.name = name := by
  simp only [describeLink]

theorem map_name_describeLinks (links : List (Nat × Text)) (h : Host) :
    (h.describeLinks links).1.map Link.name = links.map Prod.snd := by
  induction links generalizing h with
  | nil => rfl
  | cons link links ih =>
    simp only [describeLinks, List.map_cons, ih, name_describeLink]

/-- The entries of a link are those of the records that it has. -/
theorem entriesOf_eq (hrecords : h.addresses = .ok records) {name : Text}
    (hcolon : ':'.toUInt8 ∉ name) :
    h.entriesOf name =
      .ok ((records.filter (·.holder? == some name)).filterMap AddressRecord.entry?) := by
  rw [entriesOf, hrecords, ← AddressRecord.filterMap_entry?_belongsTo hcolon]

/-- The survey of a host that lists its links: each link with its entries. -/
theorem fst_survey {links : List (Nat × Text)} (hlinks : h.links = .ok links) :
    ∃ described : List Link, described.map Link.name = listedNames links ∧
      h.survey.1 = .ok (described.map fun link => ⟨link, h.entriesOf link.name⟩) := by
  have hnames := map_name_describeLinks (links.takeWhile (·.1 != 0)) h
  have hfiles := keptByReaders_filesOnly.describeLinks (links.takeWhile (·.1 != 0)) h
  generalize hdescribed : h.describeLinks (links.takeWhile (·.1 != 0)) = answer at hnames hfiles
  obtain ⟨described, h'⟩ := answer
  refine ⟨described, hnames, ?_⟩
  -- The links are described before the addresses are asked for, which changes no address.
  have hentries : ∀ name, h'.entriesOf name = h.entriesOf name := by
    intro name
    rw [entriesOf, entriesOf, show h'.addresses = h.addresses from hfiles.addresses_eq]
  simp only [survey, listLinks, hlinks, hdescribed, hentries, Except.map]

end Host

/-- Every address of the host is found under the link that has it, in the order of the host, and
under no other. Together the links have the entries of the records that are about one of them. -/
theorem Source.system_attributes {h : Host} {links : List (Nat × Text)}
    {records : List AddressRecord} (hlinks : h.links = .ok links)
    (hrecords : h.addresses = .ok records) (hnames : (listedNames links).Nodup)
    (hcolon : ∀ name ∈ listedNames links, ':'.toUInt8 ∉ name) :
    ∃ listings, (Source.system h).1 = .ok listings ∧
      listings.map (·.link.name) = listedNames links ∧
      (∀ l ∈ listings, ∃ entries, l.entries = .ok entries ∧
        List.Forall₂ AddressRecord.Describes
          (records.filter (·.holder? == some l.link.name)) entries) ∧
      ∃ entries, (listings.flatMap Listing.known).Perm entries ∧
        List.Forall₂ AddressRecord.Describes
          (records.filter fun r => (listedNames links).any fun name => r.holder? == some name)
          entries := by
  obtain ⟨described, hdescribed, hsurvey⟩ := Host.fst_survey hlinks
  have hentries : ∀ link ∈ described, h.entriesOf link.name =
      .ok ((records.filter (·.holder? == some link.name)).filterMap AddressRecord.entry?) := by
    intro link hlink
    refine Host.entriesOf_eq hrecords (hcolon link.name ?_)
    rw [← hdescribed]
    exact List.mem_map_of_mem hlink
  refine ⟨_, hsurvey, ?_, ?_, _, ?_, AddressRecord.forall₂_describes ?_⟩
  · rw [← hdescribed, List.map_map]
    rfl
  · intro l hl
    obtain ⟨link, hlink, rfl⟩ := List.mem_map.mp hl
    refine ⟨_, hentries link hlink, AddressRecord.forall₂_describes fun r hr => ?_⟩
    exact ⟨link.name, eq_of_beq (List.mem_filter.mp hr).2⟩
  · -- The records of the links, link after link, are the records about any of them.
    have hparts := (flatMap_filter_perm AddressRecord.holder? hnames records).filterMap
      AddressRecord.entry?
    refine List.Perm.trans (.of_eq ?_) hparts
    rw [← hdescribed, List.flatMap_map, List.filterMap_flatMap, List.flatMap_map]
    refine List.flatMap_congr fun link hlink => ?_
    rw [Listing.known, hentries link hlink]
    rfl
  · intro r hr
    obtain ⟨name, -, hname⟩ := List.any_eq_true.mp (List.mem_filter.mp hr).2
    exact ⟨name, eq_of_beq hname⟩

/-- Two links of which one name starts like the other, with an alias of the first. -/
def twoNames : Host where
  links := .ok [(1, Text.ofString "eth1"), (2, Text.ofString "eth10")]
  addresses := .ok
    [{ label := some (Text.ofString "eth10")
       address := some (.inet #v[198, 51, 100, 7])
       mask := some (.inet #v[255, 255, 0, 0]) },
      { label := some (Text.ofString "eth1:0")
        address := some (.inet #v[203, 0, 113, 1]) },
      { label := some (Text.ofString "eth1"), address := some (.other 17) }]

theorem Source.system_attributes_twoNames :
    ∃ listings, (Source.system twoNames).1 = .ok listings ∧
      listings.map (·.link.name) = [Text.ofString "eth1", Text.ofString "eth10"] ∧
      (∀ l ∈ listings, l.known.length = 1) ∧
      ∃ entries : List Entry, (listings.flatMap Listing.known).Perm entries ∧
        entries.length = 2 := by
  obtain ⟨listings, hsurvey, hnames, hparts, entries, hperm, hdescribes⟩ :=
    Source.system_attributes (h := twoNames) rfl rfl (by decide) (by decide)
  refine ⟨listings, hsurvey, hnames, fun l hl => ?_, entries, hperm, hdescribes.length_eq.symm⟩
  obtain ⟨own, hown, hdescribed⟩ := hparts l hl
  have hknown : l.known = own := by
    rw [Listing.known, hown]
    rfl
  rw [hknown, ← hdescribed.length_eq]
  obtain hname | hname : l.link.name = Text.ofString "eth1" ∨
      l.link.name = Text.ofString "eth10" := by
    have hmem : l.link.name ∈ listings.map (·.link.name) := List.mem_map_of_mem hl
    rw [hnames] at hmem
    simpa [listedNames] using hmem
  all_goals
    rw [hname]
    rfl

end LocalNet
