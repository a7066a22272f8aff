import LocalNet.Proofs.Attributions
import LocalNet.Proofs.Networks

/-!
# Addresses in their own networks

The running system reports a mask beside each address. An enumeration only succeeds if every mask
has the family of its address, and then each network that it finds contains its own address and its
broadcast address. This needs no more of a mask than its size: it may have ones behind zeros, and it
may still have sixteen octets where an IPv4 address came in the notation of IPv6.

- `Network.covered_ofOctets`: a mask of the size of the octets reaches the whole address;
- `AddressRecord.covered_of_entry?`: so do the masks of the entries that are addresses with a mask;
- `AddressRecord.built_of_entry?`: their addresses are made of octets;
- `Source.system_contains`: the networks of an enumeration contain their addresses.
-/

namespace LocalNet

/-- An address has no more octets than it was made of. -/
theorem Address.size_ofOctets_le (octets : List UInt8) :
    (Address.ofOctets octets).size ≤ octets.length := by
  rw [Address.ofOctets]
  split
  · exact Nat.le_refl octets.length
  · split
    · split
      · -- Of sixteen octets that stand for an IPv4 address the last four are left.
        rw [Address.size, List.length_drop]
        exact Nat.sub_le octets.length 12
      · exact Nat.le_refl octets.length
    · exact Nat.zero_le octets.length

/-- A mask with as many octets as the address was made of reaches the whole address. -/
theorem Network.covered_ofOctets {octets mask : List UInt8}
    (hoctets : octets.length = 4 ∨ octets.length = 16) (hmask : mask.length = octets.length) :
    Network.Covered ⟨Address.ofOctets octets, Mask.ofOctets mask⟩ := by
  have hsize : (Mask.ofOctets mask).size = octets.length := by
    rw [Mask.size, Mask.octets_ofOctets (hmask ▸ hoctets), hmask]
  refine ⟨?_, ?_⟩
  · rw [Mask.isEmpty_eq_false_iff, hsize]
    omega
  · rw [Network.length_alignedMask]
    refine Nat.min_eq_left ?_
    rw [hsize]
    exact Address.size_ofOctets_le octets

theorem SocketAddress.length_of_octets? {a : SocketAddress} {octets : List UInt8}
    (h : a.octets? = some octets) : octets.length = 4 ∨ octets.length = 16 := by
  cases a with
  | inet v =>
    cases h
    exact .inl v.length_toList
  | inet6 v =>
    cases h
    exact .inr v.length_toList
  | other family => cases h

/-- The entry of a record is a remark, or an address with a mask of its family. -/
theorem AddressRecord.exists_octets_of_entry? {r : AddressRecord} {e : Entry}
    (h : r.entry? = some e) (hother : e.other = none) : ∃ octets mask : List UInt8,
      (octets.length = 4 ∨ octets.length = 16) ∧ mask.length = octets.length ∧
        e.network = ⟨Address.ofOctets octets, Mask.ofOctets mask⟩ := by
  unfold entry? at h
  obtain ⟨octets, hoctets, rfl⟩ := Option.map_eq_some_iff.mp h
  obtain ⟨a, -, ha⟩ := Option.bind_eq_some_iff.mp hoctets
  -- Only a mask of the family of the address makes an entry that is no remark.
  split at hother
  · next mask hmask =>
    split at hother
    · next hlength =>
      refine ⟨octets, mask, SocketAddress.length_of_octets? ha, hlength, ?_⟩
      simp only [hlength, ↓reduceIte]
    · cases hother
  · cases hother

/-- The mask of an entry that is no remark reaches the whole address. -/
theorem AddressRecord.covered_of_entry? {r : AddressRecord} {e : Entry} (h : r.entry? = some e)
    (hother : e.other = none) : e.network.Covered := by
  obtain ⟨octets, mask, hoctets, hmask, hnetwork⟩ := exists_octets_of_entry? h hother
  rw [hnetwork]
  exact Network.covered_ofOctets hoctets hmask

/-- The address of an entry that is no remark is made of octets. -/
theorem AddressRecord.built_of_entry? {r : AddressRecord} {e : Entry} (h : r.entry? = some e)
    (hother : e.other = none) : e.network.address.Built := by
  obtain ⟨octets, mask, hoctets, -, hnetwork⟩ := exists_octets_of_entry? h hother
  rw [hnetwork]
  exact ⟨octets, hoctets, rfl⟩

/-- What the running system knows of a link comes from the records of the host. -/
theorem Host.exists_entry?_of_mem_known {h : Host} {listings : List Listing}
    (hsurvey : h.survey.1 = .ok listings) {l : Listing} (hl : l ∈ listings) {e : Entry}
    (he : e ∈ l.known) : ∃ r : AddressRecord, r.entry? = some e := by
  cases hlinks : h.links with
  | error number => simp [survey, listLinks, hlinks, Except.map] at hsurvey
  | ok links =>
    obtain ⟨described, -, hok⟩ := Host.fst_survey hlinks
    rw [hok, Except.ok.injEq] at hsurvey
    subst hsurvey
    obtain ⟨link, -, rfl⟩ := List.mem_map.mp hl
    cases haddresses : h.addresses with
    | error number =>
      simp [Listing.known, entriesOf, haddresses, Except.toOption] at he
    | ok records =>
      simp only [Listing.known, entriesOf, haddresses] at he
      obtain ⟨r, -, hr⟩ := List.mem_filterMap.mp he
      exact ⟨r, hr⟩

/-- Every network that is found at the running system contains the address in the same place and its
own broadcast address. -/
theorem Source.system_contains {h : Host} {found : List Interface}
    (hfound : (Source.system.interfaces h).1 = .ok found) :
    ∀ i ∈ found, List.Forall₂ (fun a n => n.contains a = true ∧ n.contains n.broadcast = true)
      i.addresses i.networks := by
  intro i hi
  obtain ⟨listings, hsurvey, -, hsound, rfl⟩ := Survey.interfaces_eq_ok_iff.mp hfound
  obtain ⟨l, hl, rfl⟩ := List.mem_map.mp hi
  obtain ⟨hl, -⟩ := List.mem_filter.mp hl
  rw [Listing.shown, List.forall₂_map_left_iff, List.forall₂_map_right_iff, List.forall₂_same]
  intro e he
  rw [Listing.kept_eq] at he
  obtain ⟨he, -⟩ := List.mem_filter.mp he
  obtain ⟨r, hr⟩ := Host.exists_entry?_of_mem_known hsurvey hl he
  -- The enumeration has found nothing wrong with the entry, so that it is no remark.
  have hother : e.other = none := ((hsound l hl).wellShaped e he).other_eq
  have hcovered := AddressRecord.covered_of_entry? hr hother
  exact ⟨hcovered.contains_address, hcovered.contains_broadcast⟩

/-- A link with an IPv4 address in the notation of IPv6, whose mask has ones behind zeros. -/
def mappedAddress : Host where
  links := .ok [(3, Text.ofString "wg0")]
  addresses := .ok
    [{ label := some (Text.ofString "wg0")
       address := some (.inet6 #v[0, 0, 0, 0, 0, 0, 0, 0, 0, 0, 255, 255, 192, 0, 2, 33])
       mask := some (.inet6 #v[255, 255, 255, 255, 255, 255, 255, 255, 255, 255, 255, 255,
         255, 0, 255, 0]) }]

theorem Source.system_contains_mapped :
    ∃ found, (Source.system.interfaces mappedAddress).1 = .ok found ∧
      found.map Interface.addresses = [[Address.v4 192 0 2 33]] ∧
      ∀ i ∈ found, List.Forall₂ (fun a n => n.contains a = true ∧ n.contains n.broadcast = true)
        i.addresses i.networks := by
  have hok : ((Source.system.interfaces mappedAddress).1.map
      fun found => found.map Interface.addresses) = .ok [[Address.v4 192 0 2 33]] := by
    rfl
  cases hfound : (Source.system.interfaces mappedAddress).1 with
  | error fault =>
    rw [hfound] at hok
    cases hok
  | ok found =>
    rw [hfound] at hok
    exact ⟨found, rfl, Except.ok.inj hok, Source.system_contains hfound⟩

end LocalNet
