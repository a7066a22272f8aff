import LocalNet.Lookup
import LocalNet.Proofs.Traversals
import Mathlib.Data.List.ReduceOption

/-!
# What an enumeration finds

An enumeration scans the links of a survey and the entries of each link. It reports the first thing
that is wrong with them, or describes every link at which a program can listen.

- `Survey.Fails`: what can be wrong with a survey, and the fault that is reported for it;
- `Listing.listens`, `Listing.shown`: the links that are described, and how;
- `Survey.interfaces_eq_error_iff`, `Survey.interfaces_eq_ok_iff`: the scan does just that;
- `Source.interfaces_outcome`: both, and the shape of what is described.
-/

namespace LocalNet

/-! ## Entries -/

namespace Entry

/-- An entry is a set address with a mask. -/
structure WellShaped (e : Entry) : Prop where
  /-- Nothing else is reported in its place. -/
  other_eq : e.other = none
  /-- The address is set. -/
  address_ne : e.network.address ≠ Address.unset
  /-- The mask says something. -/
  mask_ne : e.network.mask ≠ Mask.empty

end Entry

theorem Address.isUnset_iff (a : Address) : a.isUnset = true ↔ a = Address.unset := by
  have hlength := a.length_octets
  have hunset : a = Address.unset ↔ a.octets.length = 0 := by
    rw [List.length_eq_zero_iff]
    exact ⟨fun h => h ▸ rfl, fun h => Address.ext h⟩
  rw [hunset, Address.isUnset, Address.family, Address.size]
  rcases hlength with h | h | h <;> simp [h]

theorem Mask.isEmpty_iff (m : Mask) : m.isEmpty = true ↔ m = Mask.empty := by
  rw [Mask.isEmpty, List.isEmpty_iff]
  constructor
  · intro h
    cases m
    simp_all [Mask.empty]
  · intro h
    rw [h]
    rfl

namespace Entry

theorem isAddressWithMask_iff (e : Entry) : e.isAddressWithMask = true ↔ e.WellShaped := by
  have haddress := e.network.address.isUnset_iff
  have hmask := e.network.mask.isEmpty_iff
  constructor
  · intro h
    simp only [isAddressWithMask, Bool.and_eq_true, Bool.not_eq_true', Option.isNone_iff_eq_none]
      at h
    refine ⟨h.1.1, fun heq => ?_, fun heq => ?_⟩
    · simp [haddress.mpr heq] at h
    · simp [hmask.mpr heq] at h
  · rintro ⟨hother, hne, hne'⟩
    have hset : e.network.address.isUnset = false :=
      Bool.eq_false_iff.mpr fun h => hne (haddress.mp h)
    have hmasked : e.network.mask.isEmpty = false :=
      Bool.eq_false_iff.mpr fun h => hne' (hmask.mp h)
    simp [isAddressWithMask, hother, hset, hmasked]

variable {link : Link}

theorem network?_eq_ok_iff {e : Entry} {n : Network} :
    e.network? link = .ok n ↔ e.WellShaped ∧ e.network = n := by
  rw [network?, ← isAddressWithMask_iff]
  split <;> simp [*]

theorem network?_eq_error_iff {e : Entry} {fault : Fault} :
    e.network? link = .error fault ↔ ¬ e.WellShaped ∧ e.shapeFault link = fault := by
  rw [network?, ← isAddressWithMask_iff]
  split <;> simp [*]

end Entry

/-! ## Link-local addresses -/

namespace Network

/-- The IPv4 addresses of one link, 169.254.0.0/16. -/
def linkLocal4 : Network :=
  ⟨Address.v4 169 254 0 0, Mask.ofPrefix 16 32⟩

/-- The IPv6 addresses of one link, fe80::/10. -/
def linkLocal6 : Network :=
  ⟨Address.ofOctets ([0xfe, 0x80] ++ List.replicate 14 0), Mask.ofPrefix 10 128⟩

end Network

/-- A mask of zeros clears all octets. -/
theorem zipWith_and_zeros (octets : List UInt8) :
    octets.zipWith (· &&& ·) (List.replicate octets.length 0) = List.replicate octets.length 0 := by
  induction octets with
  | nil => rfl
  | cons x xs ih =>
    rw [List.length_cons, List.replicate_succ, List.zipWith_cons_cons, ih, UInt8.and_zero]

/-- A mask of two octets and zeros compares the first two octets only. -/
theorem Network.contains_of_two {n : Network} {a : Address} {p q m k x y : UInt8}
    {rest : List UInt8} (hnetwork : n.address.octets = p :: q :: List.replicate rest.length 0)
    (hmask : n.alignedMask = m :: k :: List.replicate rest.length 0)
    (hne : n.mask.isEmpty = false) (ha : a.octets = x :: y :: rest) :
    n.contains a = (x &&& m == p &&& m && y &&& k == q &&& k) := by
  have hsize : a.size = n.address.size := by
    simp [Address.size, hnetwork, ha]
  have hfamily : a.family = n.address.family := by
    rw [Address.family, hsize, Address.family]
  have hzeros := zipWith_and_zeros (List.replicate rest.length 0)
  rw [List.length_replicate] at hzeros
  have hlength : n.alignedMask.length = n.address.size := by
    simp [Address.size, hnetwork, hmask]
  rw [contains, hne, hfamily, hlength, hmask, hnetwork, ha]
  -- Behind the first two octets both sides have zeros.
  simp only [List.zipWith_cons_cons, zipWith_and_zeros, hzeros]
  rw [Bool.beq_comm (a := x &&& m), Bool.beq_comm (a := y &&& k)]
  simp

namespace Address

/-- The link-local addresses are those of the two link-local networks. -/
theorem isLinkLocal_eq (a : Address) :
    a.isLinkLocal = (Network.linkLocal4.contains a || Network.linkLocal6.contains a) := by
  obtain ⟨octets, hlength⟩ := a
  match octets, hlength with
  | [], _ => rfl
  | [_], h => simp at h
  | x :: y :: rest, h =>
    have hcases : rest.length = 2 ∨ rest.length = 14 := by simpa using h
    have hfull (b : UInt8) : b &&& 255 = b := UInt8.and_neg_one
    -- The family of the address decides which of the two networks can contain it.
    rcases hcases with h2 | h14
    · have hfamily : family ⟨x :: y :: rest, h⟩ = .v4 := by
        simp [family, size, h2]
      have h6 : Network.linkLocal6.contains ⟨x :: y :: rest, h⟩ = false := by
        rw [Network.contains, hfamily]
        rfl
      have h4 : Network.linkLocal4.contains ⟨x :: y :: rest, h⟩ = (x == 169 && y == 254) := by
        rw [Network.contains_of_two (p := 169) (q := 254) (m := 255) (k := 255)
          (by rw [h2]; rfl) (by rw [h2]; rfl) rfl rfl]
        simp only [hfull]
      rw [h6, Bool.or_false, h4, isLinkLocal, hfamily]
    · have hfamily : family ⟨x :: y :: rest, h⟩ = .v6 := by
        simp [family, size, h14]
      have h4 : Network.linkLocal4.contains ⟨x :: y :: rest, h⟩ = false := by
        rw [Network.contains, hfamily]
        rfl
      have h6 : Network.linkLocal6.contains ⟨x :: y :: rest, h⟩ =
          (x == 0xfe && y &&& 0xc0 == 0x80) := by
        rw [Network.contains_of_two (p := 0xfe) (q := 0x80) (m := 255) (k := 0xc0)
          (by rw [h14]; rfl) (by rw [h14]; rfl) rfl rfl]
        simp only [hfull]
        rfl
      rw [h4, Bool.false_or, h6, isLinkLocal, hfamily]

end Address

/-! ## Listings -/

namespace Listing

/-- The entries of a listing are there and all well-shaped. -/
def Sound (l : Listing) : Prop :=
  ∃ entries, l.entries = .ok entries ∧ ∀ e ∈ entries, e.WellShaped

/-- The first thing that is wrong with a listing, and the fault that is reported for it. -/
inductive Fails : Listing → Fault → Prop
  /-- The question for the entries failed. -/
  | unanswered (link : Link) (fault : Fault) :
    Fails ⟨link, .error fault⟩
      { kind := fault.kind
        code := fault.code
        message := Text.ofString "failed to get addresses for interface " ++ link.name
          ++ Text.ofString ": " ++ fault.message }
  /-- An entry is not well-shaped. -/
  | misshaped (link : Link) {before : List Entry} {e : Entry} {after : List Entry}
    (hbefore : ∀ b ∈ before, b.WellShaped) (he : ¬ e.WellShaped) :
    Fails ⟨link, .ok (before ++ e :: after)⟩
      { kind := .shape
        message := Text.ofString "interface " ++ link.name ++ Text.ofString ": address entry "
          ++ e.toText ++ Text.ofString " is not an address/mask pair" }

/-- The entries of a listing that are not link-local. -/
def kept (l : Listing) : List Entry :=
  match l.entries with
  | .ok entries => entries.filter fun e =>
      !(Network.linkLocal4.contains e.network.address ||
        Network.linkLocal6.contains e.network.address)
  | .error _ => []

/-- A program can listen at a link with a name and an address that is not link-local. -/
def listens (l : Listing) : Bool :=
  !l.link.name.isEmpty && !l.kept.isEmpty

/-- The description of a link: its own data and the entries that are not link-local. -/
def shown (l : Listing) : Interface where
  name := l.link.name
  addresses := l.kept.map fun e => e.network.address
  networks := l.kept.map Entry.network
  linkAddress := l.link.linkAddress
  flags := l.link.flags
  mtu := l.link.mtu

section Entries

variable {link : Link} {entries : List Entry}

/-- The interface of a listing whose entries are all well-shaped. -/
theorem interface?_of_wellShaped (h : ∀ e ∈ entries, e.WellShaped) :
    interface? ⟨link, .ok entries⟩ =
      .ok (if listens ⟨link, .ok entries⟩ then some (shown ⟨link, .ok entries⟩) else none) := by
  have hnetworks : entries.mapM (Entry.network? link) = .ok (entries.map Entry.network) :=
    (mapM_eq_ok_iff_of_step fun _ _ _ => Entry.network?_eq_ok_iff).mpr ⟨h, rfl⟩
  -- Filtering the networks of the entries is the same as filtering the entries.
  have hretained : (entries.map Entry.network).filter (·.address.isRetained) =
      (kept ⟨link, .ok entries⟩).map Entry.network := by
    rw [List.filter_map, kept]
    congr 2
    funext e
    exact congrArg (!·) e.network.address.isLinkLocal_eq
  have hshown : interface link ((kept ⟨link, .ok entries⟩).map Entry.network) =
      shown ⟨link, .ok entries⟩ := by
    simp [interface, shown]
  simp only [interface?, Except.mapError, bind, Except.bind, hnetworks, hretained, pure,
    Except.pure, hshown, listens]
  rw [List.isEmpty_map]
  by_cases hname : link.name.isEmpty = true <;>
    by_cases hkept : (kept ⟨link, .ok entries⟩).isEmpty = true <;> simp [hname, hkept]

/-- The fault of a listing with an entry that is not well-shaped. -/
theorem interface?_of_misshaped {fault : Fault}
    (h : entries.mapM (Entry.network? link) = .error fault) :
    interface? ⟨link, .ok entries⟩ = .error fault := by
  simp only [interface?, Except.mapError, bind, Except.bind, h]

end Entries

/-- A link at which a program can listen has a name and addresses, and each of its addresses is the
one of the network in the same place and not link-local. -/
theorem shown_of_listens {l : Listing} (h : l.listens = true) :
    l.shown.name ≠ [] ∧ l.shown.addresses ≠ [] ∧
      l.shown.networks.map Network.address = l.shown.addresses ∧
      ∀ a ∈ l.shown.addresses, a.isLinkLocal = false := by
  simp only [listens, Bool.and_eq_true, Bool.not_eq_true', List.isEmpty_eq_false_iff] at h
  refine ⟨h.1, by simpa [shown] using h.2, by simp [shown], fun a ha => ?_⟩
  obtain ⟨e, he, rfl⟩ := List.mem_map.mp ha
  have hkept : !(Network.linkLocal4.contains e.network.address ||
      Network.linkLocal6.contains e.network.address) := by
    cases hentries : l.entries with
    | error fault => simp [kept, hentries] at he
    | ok entries =>
      simp only [kept, hentries] at he
      exact (List.mem_filter.mp he).2
  rw [Address.isLinkLocal_eq]
  simpa using hkept

theorem interface?_eq_ok_iff {l : Listing} {found : Option Interface} :
    l.interface? = .ok found ↔
      l.Sound ∧ (if l.listens then some l.shown else none) = found := by
  obtain ⟨link, entries⟩ := l
  cases entries with
  | error fault => simp [interface?, Sound, Except.mapError, bind, Except.bind]
  | ok entries =>
    constructor
    · intro h
      cases hmap : entries.mapM (Entry.network? link) with
      | error fault => simp [interface?_of_misshaped hmap] at h
      | ok networks =>
        have hall := ((mapM_eq_ok_iff_of_step fun _ _ _ => Entry.network?_eq_ok_iff).mp hmap).1
        rw [interface?_of_wellShaped hall, Except.ok.injEq] at h
        exact ⟨⟨entries, rfl, hall⟩, h⟩
    · rintro ⟨⟨_, ⟨⟩, hall⟩, rfl⟩
      exact interface?_of_wellShaped hall

theorem interface?_eq_error_iff {l : Listing} {fault : Fault} :
    l.interface? = .error fault ↔ l.Fails fault := by
  obtain ⟨link, entries⟩ := l
  cases entries with
  | error cause =>
    constructor
    · rintro ⟨⟩
      exact .unanswered link cause
    · rintro ⟨⟩
      rfl
  | ok entries =>
    constructor
    · intro h
      cases hmap : entries.mapM (Entry.network? link) with
      | error cause =>
        rw [interface?_of_misshaped hmap, Except.error.injEq] at h
        obtain ⟨before, e, after, rfl, hbefore, he⟩ := mapM_eq_error_iff.mp hmap
        obtain ⟨hshape, hcause⟩ := Entry.network?_eq_error_iff.mp he
        rw [← h, ← hcause]
        refine .misshaped link (fun b hb => ?_) hshape
        obtain ⟨n, hn⟩ := hbefore b hb
        exact (Entry.network?_eq_ok_iff.mp hn).1
      | ok networks =>
        have hall := ((mapM_eq_ok_iff_of_step fun _ _ _ => Entry.network?_eq_ok_iff).mp hmap).1
        simp [interface?_of_wellShaped hall] at h
    · rintro ⟨⟩
      rename_i before e after hbefore he
      refine interface?_of_misshaped (mapM_eq_error_iff.mpr ⟨before, e, after, rfl, ?_, ?_⟩)
      · exact fun b hb => ⟨b.network, Entry.network?_eq_ok_iff.mpr ⟨hbefore b hb, rfl⟩⟩
      · exact Entry.network?_eq_error_iff.mpr ⟨he, rfl⟩

end Listing

/-! ## Surveys -/

namespace Survey

/-- The first thing that is wrong with a survey, and the fault that is reported for it. -/
inductive Fails : Survey → Fault → Prop
  /-- The links could not be listed. -/
  | unlisted (fault : Fault) :
    Fails (.error fault)
      { kind := fault.kind
        code := fault.code
        message := Text.ofString "couldn't get interfaces: " ++ fault.message }
  /-- There are no links. -/
  | noLinks :
    Fails (.ok [])
      { kind := .noInterfaces
        message := Text.ofString "couldn't find any legible interface" }
  /-- Something is wrong with a listing, and nothing with those before it. -/
  | listing {before : List Listing} {l : Listing} {after : List Listing} {fault : Fault}
    (hbefore : ∀ b ∈ before, b.Sound) (hl : l.Fails fault) :
    Fails (.ok (before ++ l :: after)) fault

section Scan

variable {l : Listing} {ls : List Listing}

/-- The scan of a survey with links. -/
theorem interfaces_cons :
    interfaces (.ok (l :: ls)) =
      ((l :: ls).mapM Listing.interface?).map List.reduceOption := by
  rw [interfaces]
  cases hmap : (l :: ls).mapM Listing.interface? <;>
    simp [Except.mapError, bind, Except.bind, Except.map, pure, Except.pure, hmap]

/-- Leaving out the listings that describe nothing. -/
theorem reduceOption_map_shown (ls : List Listing) :
    (ls.map fun l => if l.listens then some l.shown else none).reduceOption =
      (ls.filter Listing.listens).map Listing.shown := by
  induction ls with
  | nil => rfl
  | cons l ls ih => cases hl : l.listens <;> simp [hl, ih]

end Scan

/-- A scan fails exactly if something is wrong with the survey. -/
theorem interfaces_eq_error_iff {s : Survey} {fault : Fault} :
    s.interfaces = .error fault ↔ s.Fails fault := by
  match s with
  | .error cause =>
    constructor
    · rintro ⟨⟩
      exact .unlisted cause
    · rintro ⟨⟩
      rfl
  | .ok [] =>
    constructor
    · rintro ⟨⟩
      exact .noLinks
    · intro h
      -- No list with a listing in it is empty.
      generalize hlistings : ([] : List Listing) = listings at h
      cases h with
      | noLinks => rfl
      | listing => simp at hlistings
  | .ok (l :: ls) =>
    rw [interfaces_cons]
    constructor
    · intro h
      -- The scan fails where the first listing does.
      cases hmap : (l :: ls).mapM Listing.interface? with
      | error cause =>
        obtain ⟨before, b, after, hlistings, hbefore, hb⟩ := mapM_eq_error_iff.mp hmap
        rw [hmap, Except.map, Except.error.injEq] at h
        rw [hlistings]
        refine .listing (fun b hb => ?_) (Listing.interface?_eq_error_iff.mp (h ▸ hb))
        obtain ⟨found, hfound⟩ := hbefore b hb
        exact (Listing.interface?_eq_ok_iff.mp hfound).1
      | ok found => simp [hmap, Except.map] at h
    · intro h
      generalize hlistings : l :: ls = listings at h ⊢
      cases h with
      | noLinks => simp at hlistings
      | @listing before b after _ hbefore hb =>
        have hfirst := mapM_eq_error_iff.mpr ⟨before, b, after, rfl,
          fun b hb => ⟨_, Listing.interface?_eq_ok_iff.mpr ⟨hbefore b hb, rfl⟩⟩,
          Listing.interface?_eq_error_iff.mpr hb⟩
        rw [hfirst, Except.map]

/-- The interfaces of a survey with which nothing is wrong. -/
theorem interfaces_eq_ok_iff {s : Survey} {found : List Interface} :
    s.interfaces = .ok found ↔ ∃ listings, s = .ok listings ∧ listings ≠ [] ∧
      (∀ l ∈ listings, l.Sound) ∧
      (listings.filter Listing.listens).map Listing.shown = found := by
  match s with
  | .error cause =>
    simp [interfaces, Except.mapError, bind, Except.bind]
  | .ok [] =>
    simp [interfaces, Except.mapError, bind, Except.bind, throw, throwThe, MonadExceptOf.throw]
  | .ok (l :: ls) =>
    rw [interfaces_cons]
    constructor
    · intro h
      cases hmap : (l :: ls).mapM Listing.interface? with
      | error fault => simp [hmap, Except.map] at h
      | ok options =>
        obtain ⟨hsound, hoptions⟩ :=
          (mapM_eq_ok_iff_of_step fun _ _ _ => Listing.interface?_eq_ok_iff).mp hmap
        rw [hmap, Except.map, Except.ok.injEq, ← hoptions, reduceOption_map_shown] at h
        exact ⟨l :: ls, rfl, List.cons_ne_nil _ _, hsound, h⟩
    · rintro ⟨_, ⟨⟩, -, hsound, rfl⟩
      rw [(mapM_eq_ok_iff_of_step fun _ _ _ => Listing.interface?_eq_ok_iff).mpr ⟨hsound, rfl⟩,
        Except.map, reduceOption_map_shown]

/-- What is found comes from a listing with which nothing is wrong and at which a program can
listen. -/
theorem exists_listing_of_mem {s : Survey} {found : List Interface} (hfound : s.interfaces = .ok found)
    {i : Interface} (hi : i ∈ found) : ∃ listings l, s = .ok listings ∧ l ∈ listings ∧
      l.Sound ∧ l.listens = true ∧ l.shown = i := by
  obtain ⟨listings, rfl, -, hsound, rfl⟩ := interfaces_eq_ok_iff.mp hfound
  obtain ⟨l, hl, rfl⟩ := List.mem_map.mp hi
  obtain ⟨hl, hlistens⟩ := List.mem_filter.mp hl
  exact ⟨listings, l, rfl, hl, hsound l hl, hlistens, rfl⟩

end Survey

/-! ## Questions -/

namespace Source

/-- The network that a source gives for a name is the first one of the first interface with this
name, and belongs to its first address. Only names that are not empty have one. -/
theorem networkOf_eq_some {source : Source} {name : Text} {h : Host} {network : Network}
    (hnetwork : (source.networkOf name h).1 = some network) :
    name ≠ [] ∧ ∃ found i, (source h).1.interfaces = .ok found ∧
      found.find? (·.name == name) = some i ∧ i.networks.head? = some network ∧
      i.addresses.head? = some network.address := by
  have hsurvey : Survey.networkOf (source h).1 name = .ok (some network) := by
    unfold networkOf at hnetwork
    simp only at hnetwork
    split at hnetwork
    · next hok =>
      rw [hok]
      exact congrArg Except.ok hnetwork
    · simp at hnetwork
  cases hfound : (source h).1.interfaces with
  | error fault => simp [Survey.networkOf, hfound, Except.map] at hsurvey
  | ok found =>
    simp only [Survey.networkOf, hfound, Except.map, Except.ok.injEq, Option.bind_eq_some_iff]
      at hsurvey
    obtain ⟨i, hi, hhead⟩ := hsurvey
    -- The interface comes from a listing, so that its addresses are those of its networks.
    obtain ⟨-, l, -, -, -, hlistens, rfl⟩ :=
      Survey.exists_listing_of_mem hfound (List.mem_of_find?_eq_some hi)
    obtain ⟨hname, -, hpaired, -⟩ := Listing.shown_of_listens hlistens
    have heq : l.shown.name = name := by simpa using List.find?_some hi
    refine ⟨heq ▸ hname, _, l.shown, rfl, hi, hhead, ?_⟩
    rw [← hpaired, List.head?_map, hhead, Option.map_some]

/-- The outcome of an enumeration. It fails if something is wrong with the survey, with the fault of
the first thing that is. Otherwise it describes, in the order of the survey, the links at which a
program can listen. -/
theorem interfaces_outcome (source : Source) (h : Host) :
    (∀ fault, (source.interfaces h).1 = .error fault ↔ (source h).1.Fails fault) ∧
    (∀ found, (source.interfaces h).1 = .ok found ↔
      ∃ listings, (source h).1 = .ok listings ∧ listings ≠ [] ∧ (∀ l ∈ listings, l.Sound) ∧
        (listings.filter Listing.listens).map Listing.shown = found) ∧
    (∀ found, (source.interfaces h).1 = .ok found → ∀ i ∈ found,
      i.name ≠ [] ∧ i.addresses ≠ [] ∧ i.networks.map Network.address = i.addresses ∧
        ∀ a ∈ i.addresses,
          ¬ Network.linkLocal4.contains a ∧ ¬ Network.linkLocal6.contains a) := by
  refine ⟨fun fault => Survey.interfaces_eq_error_iff, fun found => Survey.interfaces_eq_ok_iff,
    fun found hfound i hi => ?_⟩
  obtain ⟨listings, -, -, -, rfl⟩ := Survey.interfaces_eq_ok_iff.mp hfound
  -- Every described interface comes from a listing that passes the filter.
  obtain ⟨l, hl, rfl⟩ := List.mem_map.mp hi
  obtain ⟨hname, haddresses, hpaired, hlocal⟩ := Listing.shown_of_listens (List.mem_filter.mp hl).2
  refine ⟨hname, haddresses, hpaired, fun a ha => ?_⟩
  simpa [Address.isLinkLocal_eq] using hlocal a ha

/-- A link with a link-local address and another one, and a link without a name. -/
def twoLinks : Source :=
  fixed (.ok
    [⟨{ name := Text.ofString "eth0", mtu := 1500 },
      .ok [{ network := ⟨Address.v4 169 254 7 7, Mask.ofPrefix 16 32⟩ },
        { network := ⟨Address.v4 192 0 2 10, Mask.ofPrefix 24 32⟩ }]⟩,
     ⟨{ name := [] }, .ok [{ network := ⟨Address.v4 198 51 100 1, Mask.ofPrefix 24 32⟩ }]⟩])

theorem interfaces_outcome_twoLinks :
    ∃ found, (twoLinks.interfaces {}).1 = .ok found ∧
      found.map Interface.addresses = [[Address.v4 192 0 2 10]] ∧
      ∀ i ∈ found, i.name ≠ [] ∧ i.addresses ≠ [] ∧
        i.networks.map Network.address = i.addresses ∧
        ∀ a ∈ i.addresses,
          ¬ Network.linkLocal4.contains a ∧ ¬ Network.linkLocal6.contains a := by
  obtain ⟨-, -, hshape⟩ := interfaces_outcome twoLinks {}
  have hok : (twoLinks.interfaces {}).1 = .ok
      [{ name := Text.ofString "eth0", mtu := 1500
         addresses := [Address.v4 192 0 2 10]
         networks := [⟨Address.v4 192 0 2 10, Mask.ofPrefix 24 32⟩] }] := by
    rfl
  exact ⟨_, hok, rfl, hshape _ hok⟩

end Source

end LocalNet
