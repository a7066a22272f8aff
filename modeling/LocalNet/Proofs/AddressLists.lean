import LocalNet.Proofs.Attributions
import LocalNet.Proofs.NetworkText

/-!
# Two lists of addresses

The list of all addresses reads each address from the printed form of its entry; an enumeration
takes it from the entry itself and leaves some out. Where an enumeration succeeds, the list can only
fail at a mask whose printed form is not read, and whenever it fails it holds no address.

- `Survey.rows`, `Survey.isShown`: the entries of a survey with their links, and those that an
  enumeration keeps;
- `Entry.addressText?_eq_ok_iff`: what is read from the printed form of an entry;
- `Survey.addresses_eq`: the search for all addresses is a traversal of the listings;
- `Survey.addressTexts?_eq_ok_iff`, `Survey.flatMap_addressTexts_shown`: both lists in terms of the
  rows;
- `Source.addresses_agree`: the two lists compared.
-/

namespace LocalNet

/-! ## Entries -/

namespace Entry

/-- The address of an entry as it is read from the printed form of the entry. -/
def addressText? (e : Entry) : Except Fault Text := do
  let cidr ← (Cidr.parse e.toText).mapError (Fault.wrap (Text.ofString "parsing cidr"))
  return cidr.address.toText

/-- The printed form of a well-shaped entry is read exactly if its mask is canonical. -/
theorem addressText?_eq_ok_iff {e : Entry} {t : Text} (he : e.WellShaped)
    (hnormal : e.network.address.Normalized) :
    e.addressText? = .ok t ↔ e.network.Canonical ∧ e.network.address.toText = t := by
  have hbuilt : e.network.address.Built := Address.built_iff.mpr ⟨hnormal, he.address_ne⟩
  have hmask : e.network.mask.isEmpty = false := by
    rw [Bool.eq_false_iff, ne_eq, Mask.isEmpty_iff]
    exact he.mask_ne
  have hread (c : Cidr) := Cidr.parse?_toText_eq_some_iff (c := c) hbuilt hmask
  have htext : e.toText = e.network.toText := by
    rw [toText, he.other_eq, Option.getD_none]
  rw [addressText?, htext, Cidr.parse]
  cases hparse : Cidr.parse? e.network.toText with
  | none =>
    constructor
    · rintro ⟨⟩
    · rintro ⟨⟨k, hones⟩, -⟩
      rw [(hread _).mpr ⟨k, hones, rfl⟩] at hparse
      cases hparse
  | some c =>
    obtain ⟨k, hones, rfl⟩ := (hread c).mp hparse
    constructor
    · rintro ⟨⟩
      exact ⟨⟨k, hones⟩, rfl⟩
    · rintro ⟨-, rfl⟩
      rfl

end Entry

/-! ## Listings -/

namespace Listing

/-- The addresses of a listing as they are read from the printed forms of its entries. -/
def addressTexts? (l : Listing) : Except Fault (List Text) := do
  let context := Text.ofString "getting addresses for \"" ++ l.link.name ++ Text.ofString "\""
  let entries ← l.entries.mapError (Fault.wrap context)
  entries.mapM Entry.addressText?

theorem addressTexts?_ok (link : Link) (entries : List Entry) :
    addressTexts? ⟨link, .ok entries⟩ = entries.mapM Entry.addressText? := rfl

/-- The addresses of a listing whose entries are all well-shaped. -/
theorem addressTexts?_eq_ok_iff {l : Listing} {texts : List Text} (hsound : l.Sound)
    (hnormal : ∀ e ∈ l.known, e.network.address.Normalized) :
    l.addressTexts? = .ok texts ↔
      (∀ e ∈ l.known, e.network.Canonical) ∧
        (l.known.map fun e => e.network.address.toText) = texts := by
  have hshaped := hsound.wellShaped
  obtain ⟨link, answer⟩ := l
  obtain ⟨entries, rfl, -⟩ := hsound
  rw [addressTexts?_ok]
  exact mapM_eq_ok_iff_of_step fun e he _ =>
    Entry.addressText?_eq_ok_iff (hshaped e he) (hnormal e he)

end Listing

/-! ## The search -/

namespace AddressList

variable {texts : List Text}

/-- What has been found, followed by the outcome of the rest of the search. A fault leaves nothing
of what has been found. -/
def followed (texts : List Text) : Except Fault (List Text) → AddressList
  | .ok more => { texts := texts ++ more }
  | .error fault => { fault := some fault }

theorem texts_followed {outcome : Except Fault (List Text)}
    (h : (followed texts outcome).fault ≠ none) : (followed texts outcome).texts = [] := by
  cases outcome with
  | ok more => exact absurd rfl h
  | error fault => rfl

/-- The search through entries is a traversal of them. -/
theorem addEntries_eq (texts : List Text) (entries : List Entry) :
    addEntries { texts } entries = followed texts (entries.mapM Entry.addressText?) := by
  induction entries generalizing texts with
  | nil => simp [addEntries, followed, pure, Except.pure]
  | cons e entries ih =>
    rw [addEntries, List.mapM_cons, Entry.addressText?]
    cases Cidr.parse e.toText with
    | error fault => rfl
    | ok cidr =>
      -- What is read joins what has been found, with which the search goes on.
      simp only [ih]
      cases entries.mapM Entry.addressText? <;>
        simp [followed, Except.mapError, bind, Except.bind, pure, Except.pure]

/-- The search through listings is a traversal of them, with what has been found before in front. -/
theorem addListings_eq (texts : List Text) (listings : List Listing) :
    addListings { texts } listings =
      followed texts ((listings.mapM Listing.addressTexts?).map List.flatten) := by
  induction listings generalizing texts with
  | nil => simp [addListings, followed, Except.map, pure, Except.pure]
  | cons l listings ih =>
    obtain ⟨link, answer⟩ := l
    rw [addListings, List.mapM_cons]
    cases answer with
    | error fault => rfl
    | ok entries =>
      simp only [addEntries_eq, Listing.addressTexts?_ok]
      cases entries.mapM Entry.addressText? with
      | error fault => rfl
      | ok more =>
        simp only [followed, Option.isSome_none, Bool.false_eq_true, if_false, ih]
        cases listings.mapM Listing.addressTexts? <;>
          simp [bind, Except.bind, pure, Except.pure, Except.map]

end AddressList

/-! ## Surveys -/

namespace Survey

/-- The entries of a survey in its order, each with its link. -/
def rows (s : Survey) : List (Link × Entry) :=
  (s.toOption.getD []).flatMap fun l => l.known.map fun e => (l.link, e)

/-- Whether an enumeration keeps a row: the link has a name and the address is not link-local. -/
def isShown (row : Link × Entry) : Bool :=
  !row.1.name.isEmpty && !row.2.network.address.isLinkLocal

/-- The addresses of a survey that come with a mask are normalized. -/
def Normal (s : Survey) : Prop :=
  ∀ row ∈ s.rows, row.2.other = none → row.2.network.address.Normalized

instance (s : Survey) : Decidable s.Normal :=
  inferInstanceAs
    (Decidable (∀ row ∈ s.rows, row.2.other = none → row.2.network.address.Normalized))

/-- The printed address of a row. -/
def rowText (row : Link × Entry) : Text :=
  row.2.network.address.toText

/-- The addresses of a survey as they are read from the printed forms of its entries. -/
def addressTexts? : Survey → Except Fault (List Text)
  | .ok listings => (listings.mapM Listing.addressTexts?).map List.flatten
  | .error fault => .error (fault.wrap (Text.ofString "getting network interfaces"))

/-- The search for all addresses reads each entry of the survey. -/
theorem addresses_eq (s : Survey) : s.addresses = AddressList.followed [] s.addressTexts? := by
  cases s with
  | error fault => rfl
  | ok listings => exact AddressList.addListings_eq [] listings

variable {listings : List Listing}

theorem forall_mem_rows {p : Entry → Prop} :
    (∀ row ∈ rows (.ok listings), p row.2) ↔ ∀ l ∈ listings, ∀ e ∈ l.known, p e := by
  simp only [rows, Except.toOption, Option.getD_some, List.forall_mem_flatMap, List.forall_mem_map]

theorem map_rowText_rows :
    (rows (.ok listings)).map rowText =
      listings.flatMap fun l => l.known.map fun e => e.network.address.toText := by
  simp only [rows, Except.toOption, Option.getD_some, List.map_flatMap, List.map_map]
  rfl

/-- The addresses of a survey whose entries are all well-shaped. -/
theorem addressTexts?_eq_ok_iff {texts : List Text} (hsound : ∀ l ∈ listings, l.Sound)
    (hnormal : ∀ row ∈ rows (.ok listings), row.2.network.address.Normalized) :
    addressTexts? (.ok listings) = .ok texts ↔
      (∀ row ∈ rows (.ok listings), row.2.network.Canonical) ∧
        (rows (.ok listings)).map rowText = texts := by
  have hstep (lists : List (List Text)) : listings.mapM Listing.addressTexts? = .ok lists ↔
      (∀ l ∈ listings, ∀ e ∈ l.known, e.network.Canonical) ∧
        (listings.map fun l => l.known.map fun e => e.network.address.toText) = lists :=
    mapM_eq_ok_iff_of_step fun l hl _ =>
      Listing.addressTexts?_eq_ok_iff (hsound l hl) (forall_mem_rows.mp hnormal l hl)
  have hmap : addressTexts? (.ok listings) = .ok texts ↔
      ∃ lists, listings.mapM Listing.addressTexts? = .ok lists ∧ lists.flatten = texts := by
    rw [addressTexts?]
    cases listings.mapM Listing.addressTexts? <;> simp [Except.map]
  rw [hmap, forall_mem_rows (p := fun e => e.network.Canonical), map_rowText_rows,
    List.flatMap_def]
  constructor
  · rintro ⟨lists, hlists, rfl⟩
    obtain ⟨hcanonical, rfl⟩ := (hstep lists).mp hlists
    exact ⟨hcanonical, rfl⟩
  · rintro ⟨hcanonical, rfl⟩
    exact ⟨_, (hstep _).mpr ⟨hcanonical, rfl⟩, rfl⟩

/-- Of the rows of a listing those are kept that belong to its interface, if it has one. -/
theorem filter_isShown (l : Listing) :
    ((l.known.map fun e => (l.link, e)).filter isShown).map rowText =
      if l.listens then l.shown.addressTexts else [] := by
  have hkept : l.known.filter (fun e => !e.network.address.isLinkLocal) = l.kept := l.kept_eq.symm
  have htexts : l.shown.addressTexts = l.kept.map fun e => e.network.address.toText := by
    rw [Interface.addressTexts, Listing.shown, List.map_map]
    rfl
  rw [List.filter_map, List.map_map, Listing.listens, htexts]
  cases hname : l.link.name.isEmpty with
  | true => simp [Function.comp_def, isShown, hname]
  | false =>
    simp only [Function.comp_def, isShown, rowText, hname, Bool.not_false, Bool.true_and, hkept]
    -- Without kept entries there is no interface, but then there are no rows to keep either.
    cases l.kept <;> rfl

/-- The printed addresses of the interfaces of a survey are those of the rows that are kept. -/
theorem flatMap_addressTexts_shown (listings : List Listing) :
    ((listings.filter Listing.listens).map Listing.shown).flatMap Interface.addressTexts =
      ((rows (.ok listings)).filter isShown).map rowText := by
  induction listings with
  | nil => rfl
  | cons l listings ih =>
    have hrows : rows (.ok (l :: listings)) =
        (l.known.map fun e => (l.link, e)) ++ rows (.ok listings) := rfl
    rw [hrows, List.filter_append, List.map_append, ← ih, filter_isShown]
    cases hl : l.listens with
    | true => rw [List.filter_cons_of_pos hl, List.map_cons, List.flatMap_cons, if_pos rfl]
    | false => rw [List.filter_cons_of_neg (by simp [hl]), if_neg (by simp), List.nil_append]

end Survey

/-! ## The two lists -/

/-- The two lists of addresses agree. If an enumeration succeeds, the list of all addresses fails
exactly at a mask that is not canonical; otherwise the addresses of the interfaces are those in the
list whose rows an enumeration keeps. A list that fails holds no address. -/
theorem Source.addresses_agree (source : Source) (h : Host) :
    ((source h).1.Normal → ∀ found, (source.interfaces h).1 = .ok found →
      ((source.addressList h).1.fault = none ↔
        ∀ row ∈ (source h).1.rows, row.2.network.Canonical) ∧
      ((source.addressList h).1.fault = none →
        (source.addressList h).1.texts.length = (source h).1.rows.length ∧
        found.flatMap Interface.addressTexts =
          (((source h).1.rows.zip (source.addressList h).1.texts).filter fun entry =>
            Survey.isShown entry.1).map Prod.snd)) ∧
    ((source.addressList h).1.fault ≠ none → (source.addressList h).1.texts = []) := by
  have hlist : (source.addressList h).1 = AddressList.followed [] (source h).1.addressTexts? :=
    (source h).1.addresses_eq
  rw [hlist]
  refine ⟨fun hnormal found hfound => ?_, AddressList.texts_followed⟩
  obtain ⟨listings, hlistings, -, hsound, rfl⟩ := Survey.interfaces_eq_ok_iff.mp hfound
  rw [hlistings] at hnormal ⊢
  have hother : ∀ row ∈ Survey.rows (.ok listings), row.2.other = none :=
    Survey.forall_mem_rows.mpr fun l hl e he => ((hsound l hl).wellShaped e he).other_eq
  have hnormal' : ∀ row ∈ Survey.rows (.ok listings), row.2.network.address.Normalized :=
    fun row hrow => hnormal row hrow (hother row hrow)
  cases houtcome : Survey.addressTexts? (.ok listings) with
  | error fault =>
    -- All entries are well-shaped, so that only a mask can be what is not read.
    have hfails : ¬ ∀ row ∈ Survey.rows (.ok listings), row.2.network.Canonical := by
      intro hcanonical
      rw [(Survey.addressTexts?_eq_ok_iff hsound hnormal').mpr ⟨hcanonical, rfl⟩] at houtcome
      cases houtcome
    exact ⟨⟨fun h => absurd h (by simp [AddressList.followed]), fun h => absurd h hfails⟩,
      fun h => absurd h (by simp [AddressList.followed])⟩
  | ok texts =>
    obtain ⟨hcanonical, rfl⟩ := (Survey.addressTexts?_eq_ok_iff hsound hnormal').mp houtcome
    refine ⟨iff_of_true rfl hcanonical, fun _ => ⟨?_, ?_⟩⟩
    · rw [AddressList.followed, List.nil_append, List.length_map]
    · -- Each row stands beside its own printed address.
      rw [Survey.flatMap_addressTexts_shown, AddressList.followed, List.nil_append,
        ← List.map_prod_left_eq_zip, List.filter_map, List.map_map]
      rfl

/-- A link with a link-local address and an IPv6 address under a mask of four octets, and a link
without a name. -/
def threeEntries : Source :=
  Source.fixed (.ok
    [⟨{ name := Text.ofString "eth0" },
      .ok [{ network := ⟨Address.v4 169 254 7 7, Mask.ofPrefix 16 32⟩ },
        { network := ⟨Address.ofOctets ([0x20, 0x01, 0x0d, 0xb8] ++ List.replicate 11 0 ++ [1]),
            Mask.ofPrefix 32 32⟩ }]⟩,
     ⟨{ name := [] }, .ok [{ network := ⟨Address.v4 198 51 100 1, Mask.ofPrefix 24 32⟩ }]⟩])

theorem Source.addresses_agree_threeEntries :
    (threeEntries {}).1.Normal ∧ ∃ found, (threeEntries.interfaces {}).1 = .ok found ∧
      (threeEntries.addressList {}).1.fault = none ∧
      (threeEntries.addressList {}).1.texts =
        [Text.ofString "169.254.7.7", Text.ofString "2001:db8::1", Text.ofString "198.51.100.1"] ∧
      found.flatMap Interface.addressTexts = [Text.ofString "2001:db8::1"] := by
  obtain ⟨hagree, -⟩ := addresses_agree threeEntries {}
  have hnormal : (threeEntries {}).1.Normal := by decide
  obtain ⟨found, hfound⟩ : ∃ found, (threeEntries.interfaces {}).1 = .ok found := ⟨_, rfl⟩
  have htexts : (threeEntries.addressList {}).1 =
      { texts := [Text.ofString "169.254.7.7", Text.ofString "2001:db8::1",
          Text.ofString "198.51.100.1"] } := by
    rfl
  obtain ⟨-, hshown⟩ := hagree hnormal found hfound
  have hfault : (threeEntries.addressList {}).1.fault = none := by rw [htexts]
  refine ⟨hnormal, found, hfound, hfault, ?_, ?_⟩
  · rw [htexts]
  · rw [(hshown hfault).2, htexts]
    rfl

end LocalNet
