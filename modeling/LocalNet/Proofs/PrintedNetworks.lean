import LocalNet.Proofs.NetworkText

/-!
# Printed networks

A network is printed as its address, a slash and what applies of its mask. A mask of ones and then
zeros is printed by the number of its ones, any other one in full: as four decimal numerals with
dots, or as thirty-two hexadecimal digits. These forms have no text in common.

- `Mask.toText_inj`: masks of one size have different texts;
- `Network.MaskText`: what may stand behind the slash;
- `Network.MaskText.alignedMask_eq`: it tells the mask;
- `Cidr.Restores`: what should be read of a printed network;
- `Network.toText_faithful`: what is read, and from which networks, and that different networks have
  different texts.
-/

namespace LocalNet

/-! ## Printed masks -/

namespace Hex

theorem digitChar_inj {d e : Nat} (hd : d < 16) (he : e < 16)
    (h : (Nat.digitChar d).toUInt8 = (Nat.digitChar e).toUInt8) : d = e := by
  have hread := digit?_digitChar hd
  rw [h, digit?_digitChar he, Option.some.injEq] at hread
  exact hread.symm

theorem octet_inj {a b : UInt8} (h : octet a = octet b) : a = b := by
  have ha := a.toNat_lt
  have hb := b.toNat_lt
  rw [octet, octet, List.cons.injEq, List.cons.injEq] at h
  obtain ⟨hhigh, hlow, -⟩ := h
  have hdiv := digitChar_inj (by omega) (by omega) hhigh
  have hmod := digitChar_inj (Nat.mod_lt _ (by decide)) (Nat.mod_lt _ (by decide)) hlow
  apply UInt8.toNat_inj.mp
  rw [← Nat.div_add_mod a.toNat 16, ← Nat.div_add_mod b.toNat 16, hdiv, hmod]

/-- Rows of octets have different digits. -/
theorem ofOctets_inj {as bs : List UInt8} (h : ofOctets as = ofOctets bs) : as = bs := by
  induction as generalizing bs with
  | nil =>
    cases bs with
    | nil => rfl
    | cons b bs => simp [ofOctets, octet] at h
  | cons a as ih =>
    cases bs with
    | nil => simp [ofOctets, octet] at h
    | cons b bs =>
      -- The first two digits are those of the first octet.
      obtain ⟨hfirst, hrest⟩ := List.append_inj h rfl
      rw [octet_inj hfirst, ih hrest]

end Hex

theorem Address.dotted_inj {as bs : List UInt8} (ha : as.length = 4) (hb : bs.length = 4)
    (h : dotted as = dotted bs) : as = bs := by
  have hread := dotted?_dotted ha
  rw [h, dotted?_dotted hb, Option.some.injEq] at hread
  exact hread.symm

/-- Masks of one size have different texts. -/
theorem Mask.toText_inj {m m' : Mask} (hsize : m.size = m'.size) (h : m.toText = m'.toText) :
    m = m' := by
  rw [toText, toText, ← hsize] at h
  apply octets_inj.mp
  -- The size decides in which of the two forms both masks are printed.
  split at h
  · next h4 => exact Address.dotted_inj h4 (hsize.symm.trans h4) h
  · exact Hex.ofOctets_inj h

namespace Network

variable {n n' : Network} {k : Nat} {t t' : Text}

/-! ## Networks with a mask for the whole address -/

/-- The network's address is normalized and set, and the mask has an octet for each of its octets. -/
structure Whole (n : Network) : Prop where
  /-- The address is normalized. -/
  normalized : n.address.Normalized
  /-- It is set. -/
  isUnset_eq : n.address.isUnset = false
  /-- As many octets of the mask apply as the address has. -/
  length_alignedMask : n.alignedMask.length = n.address.size

namespace Whole

theorem built (h : n.Whole) : n.address.Built := by
  refine Address.built_iff.mpr ⟨h.normalized, fun hunset => ?_⟩
  have hset := h.isUnset_eq
  rw [hunset] at hset
  exact absurd hset (by decide)

theorem size_ne (h : n.Whole) : n.address.size ≠ 0 := by
  have hsize := h.built.size_cases
  omega

theorem isEmpty_mask (h : n.Whole) : n.mask.isEmpty = false := by
  have hlength := h.length_alignedMask
  have hne := h.size_ne
  rw [Network.length_alignedMask] at hlength
  rw [Mask.isEmpty_eq_false_iff]
  omega

/-- If ones precede the zeros in what applies of the mask, they are a prefix of the address. -/
theorem hasPrefix (h : n.Whole) (hones : n.HasOnes k) : n.HasPrefix k := by
  have hle := hones.le_length
  have hlength := h.length_alignedMask
  refine ⟨h.size_ne, by omega, ?_⟩
  rw [← hlength]
  exact hones

end Whole

/-! ## Behind the slash -/

/-- What may stand behind the slash of a printed network. -/
inductive MaskText (n : Network) : Text → Prop
  /-- The number of ones, if they precede the zeros. -/
  | prefixLength {k : Nat} (hones : n.HasOnes k) : MaskText n (Decimal.ofNat k)
  /-- Otherwise all that applies of the mask. -/
  | full (hscattered : ¬ n.Canonical) : MaskText n (Mask.ofOctets n.alignedMask).toText

theorem Whole.exists_maskText (h : n.Whole) :
    ∃ t, n.MaskText t ∧ n.toText = n.address.toText ++ '/'.toUInt8 :: t := by
  by_cases hcanonical : n.Canonical
  · obtain ⟨k, hones⟩ := hcanonical
    exact ⟨_, .prefixLength hones, toText_of_hasOnes h.size_ne h.isEmpty_mask hones⟩
  · exact ⟨_, .full hcanonical, toText_of_not_canonical h.size_ne h.isEmpty_mask hcanonical⟩

/-- A prefix length takes at most three digits, and a mask in full takes more room. -/
theorem Whole.ofNat_ne_toText (h : n.Whole) (hones : n.HasOnes k) (h' : n'.Whole) :
    Decimal.ofNat k ≠ (Mask.ofOctets n'.alignedMask).toText := by
  have hle := hones.le_length
  have hlength := h.length_alignedMask
  have hsize := h.built.size_cases
  have hshort := Decimal.length_ofNat_le (n := k) (by omega)
  have hlong := Mask.three_lt_length_toText (size_ofOctets_alignedMask_ne h'.size_ne h'.isEmpty_mask)
  intro heq
  rw [heq] at hshort
  omega

/-- What stands behind the slash tells what applies of the mask, once the size of the address is
known. -/
theorem MaskText.alignedMask_eq (h : n.Whole) (h' : n'.Whole)
    (hsize : n.address.size = n'.address.size) (ht : n.MaskText t) (ht' : n'.MaskText t')
    (heq : t = t') : n.alignedMask = n'.alignedMask := by
  have hlength : n.alignedMask.length = n'.alignedMask.length := by
    rw [h.length_alignedMask, hsize, h'.length_alignedMask]
  cases ht with
  | prefixLength hones =>
    cases ht' with
    | prefixLength hones' =>
      -- Rows of one length with as many ones in front are the same.
      rw [HasOnes, Decimal.ofNat_inj heq, hlength] at hones
      exact Bits.ofOctets_inj.mp (hones.trans hones'.symm)
    | full => exact absurd heq (h.ofNat_ne_toText hones h')
  | full =>
    cases ht' with
    | prefixLength hones' => exact absurd heq.symm (h'.ofNat_ne_toText hones' h)
    | full =>
      have hoctets := octets_ofOctets_alignedMask h.size_ne h.isEmpty_mask
      have hoctets' := octets_ofOctets_alignedMask h'.size_ne h'.isEmpty_mask
      have hmask : Mask.ofOctets n.alignedMask = Mask.ofOctets n'.alignedMask := by
        refine Mask.toText_inj ?_ heq
        rw [Mask.size, Mask.size, hoctets, hoctets', hlength]
      rw [← hoctets, hmask, hoctets']

/-- The text of a network tells its address and what applies of its mask. -/
theorem Whole.eq_of_toText_eq (h : n.Whole) (h' : n'.Whole) (heq : n.toText = n'.toText) :
    n.address = n'.address ∧ n.alignedMask = n'.alignedMask := by
  obtain ⟨t, ht, htext⟩ := h.exists_maskText
  obtain ⟨t', ht', htext'⟩ := h'.exists_maskText
  -- No slash is in a printed address, so that both texts are cut at the same place.
  have hcut := Text.cutFirst?_append_cons n.address.slash_notMem_toText t
  rw [← htext, heq, htext', Text.cutFirst?_append_cons n'.address.slash_notMem_toText,
    Option.some.injEq, Prod.mk.injEq] at hcut
  obtain ⟨haddress, hmask⟩ := hcut
  have hread := h.built.parse?_toText
  rw [← haddress, h'.built.parse?_toText, Option.some.injEq] at hread
  refine ⟨hread.symm, ht.alignedMask_eq h h' ?_ ht' hmask.symm⟩
  rw [hread]

end Network

/-! ## Reading -/

/-- The address of a network, what applies of its mask, and the address with the bits cleared where
this has zeros. -/
structure Cidr.Restores (c : Cidr) (n : Network) : Prop where
  /-- The address is the one of the network. -/
  address_eq : c.address = n.address
  /-- The mask is what applies of the network's. -/
  octets_mask : c.network.mask.octets = n.alignedMask
  /-- A bit of the network's address stays where the mask has a one. -/
  bits_base : c.network.address.bits =
    n.address.bits.zipWith (· && ·) (Bits.ofOctets n.alignedMask)

/-- A prefix of ones cuts out the network itself, without the bits behind the prefix. -/
theorem Cidr.restores_cut {n : Network} {k : Nat} (h : n.Whole) (hones : n.HasOnes k) :
    (cut n.address k).Restores n := by
  have hsize := h.built.size_cases
  have hlead := h.hasPrefix hones
  have hmask := hasPrefix_mask h.built hlead.le_size
  constructor
  case address_eq => rfl
  case octets_mask =>
    apply Bits.ofOctets_inj.mp
    rw [hlead.bits_eq]
    exact Mask.bits_ofPrefix hsize hlead.le_size
  case bits_base =>
    -- Ones keep the bits of the prefix, and zeros clear those behind it.
    have hbits := Bits.zipWith_onesThenZeros Bool.and_true Bool.and_false
      (n.address.length_bits ▸ hlead.le_size)
    rw [hlead.bits_eq, ← n.address.length_bits, hbits, n.address.length_bits]
    exact hmask.bits_base

/-- The printed form of a network is read just if what applies of its mask is ones and then zeros,
and then as the network. Networks with the same text have the same address and the same mask, as far
as it applies. -/
theorem Network.toText_faithful {n n' : Network} (h : n.Whole) (h' : n'.Whole) :
    ((∃ c, Cidr.parse n.toText = .ok c) ↔ n.Canonical) ∧
    (∀ c, Cidr.parse n.toText = .ok c → c.Restores n) ∧
    (n.toText = n'.toText → n.address = n'.address ∧ n.alignedMask = n'.alignedMask) := by
  have hread (c : Cidr) :
      Cidr.parse n.toText = .ok c ↔ ∃ k, n.HasOnes k ∧ Cidr.cut n.address k = c := by
    rw [Cidr.parse_eq_ok_iff, Cidr.parse?_toText_eq_some_iff h.built h.isEmpty_mask]
  refine ⟨?_, fun c hc => ?_, h.eq_of_toText_eq h'⟩
  · constructor
    · rintro ⟨c, hc⟩
      obtain ⟨k, hones, -⟩ := (hread c).mp hc
      exact ⟨k, hones⟩
    · rintro ⟨k, hones⟩
      exact ⟨_, (hread _).mpr ⟨k, hones, rfl⟩⟩
  · obtain ⟨k, hones, rfl⟩ := (hread c).mp hc
    exact Cidr.restores_cut h hones

/-- Of a mask of sixteen octets the last four apply to an IPv4 address; a mask whose ones are not in
front is printed in full and not read. -/
theorem Network.toText_faithful_twoMasks :
    let n : Network := ⟨Address.v4 192 0 2 78, Mask.ofPrefix 122 128⟩
    let n' : Network := ⟨Address.v4 192 0 2 78, Mask.ofOctets [255, 255, 0, 192]⟩
    n.Whole ∧ n'.Whole ∧ n.toText = Text.ofString "192.0.2.78/26" ∧
      (∃ c, Cidr.parse n.toText = .ok c ∧ c.Restores n) ∧
      n'.toText = Text.ofString "192.0.2.78/255.255.0.192" ∧
      ¬ ∃ c, Cidr.parse n'.toText = .ok c := by
  have htext : Network.toText ⟨Address.v4 192 0 2 78, Mask.ofPrefix 122 128⟩ =
      Text.ofString "192.0.2.78/26" := by
    rfl
  have htext' : Network.toText ⟨Address.v4 192 0 2 78, Mask.ofOctets [255, 255, 0, 192]⟩ =
      Text.ofString "192.0.2.78/255.255.0.192" := by
    rfl
  intro n n'
  have hwhole : n.Whole := ⟨by decide, by decide, by decide⟩
  have hwhole' : n'.Whole := ⟨by decide, by decide, by decide⟩
  obtain ⟨hread, hrestores, -⟩ := toText_faithful hwhole hwhole'
  obtain ⟨hread', -, -⟩ := toText_faithful hwhole' hwhole
  have hones : n.HasOnes 26 := rfl
  have hscattered : ¬ n'.Canonical := by
    rintro ⟨k, hones⟩
    have hlength := (prefixLength?_alignedMask_iff hwhole'.size_ne hwhole'.isEmpty_mask).mpr hones
    have hnone : (Mask.ofOctets n'.alignedMask).prefixLength? = none := rfl
    rw [hnone] at hlength
    cases hlength
  obtain ⟨c, hc⟩ := hread.mpr ⟨26, hones⟩
  exact ⟨hwhole, hwhole', htext, ⟨c, hc, hrestores c hc⟩, htext',
    fun h => hscattered (hread'.mp h)⟩

end LocalNet
