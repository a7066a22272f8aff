import LocalNet.Proofs.NetworkText

/-!
# Networks as parts of the address space

The broadcast address names the part of the address space that a network is: with a mask for every
octet, an address lies in the network if and only if it has the network's broadcast address. Nothing
is asked of the mask, whose ones and zeros may stand in any order.

- `Network.broadcast_broadcast`: a broadcast address is its own, also under the mask that an address
  implies;
- `Network.shortened`: an IPv4 network with those octets of a longer mask that apply to it;
- `Network.broadcast_partition`: broadcast address and containment describe the same parts.
-/

namespace LocalNet

/-! ## Implied masks -/

namespace Mask

theorem classful_cases (a : Address) :
    classful a = empty ∨ ∃ k ∈ [8, 16, 24], classful a = ofPrefix k 32 := by
  unfold classful
  split
  · right
    split
    · exact ⟨8, by simp, rfl⟩
    · split
      · exact ⟨16, by simp, rfl⟩
      · exact ⟨24, by simp, rfl⟩
  · exact .inl rfl

/-- The mask that an address implies has only ones in its first octet. -/
theorem head?_aligned_classful (a : Address) (length : Nat) :
    ∀ m ∈ ((classful a).aligned length).head?, m = 0xff := by
  have hones : ∀ k ∈ [8, 16, 24], (ofPrefix k 32).octets.head? = some 0xff ∧
      (ofPrefix k 32).size ≠ 16 := by decide
  intro m hm
  rcases classful_cases a with hnone | ⟨k, hk, hmask⟩
  · rw [hnone, show empty.aligned length = [] by simp [aligned, empty]] at hm
    cases hm
  · obtain ⟨hhead, hsize⟩ := hones k hk
    rw [hmask, aligned, if_neg (fun h => hsize h.2), List.head?_take, hhead] at hm
    split at hm
    · cases hm
    · exact (Option.some.inj hm).symm

/-- Which mask an address implies depends on its family and its first octet. -/
theorem classful_congr {a b : Address} (hfamily : a.family = b.family)
    (hhead : a.octets.head? = b.octets.head?) : classful a = classful b := by
  unfold classful
  rw [hfamily]
  cases ha : a.octets with
  | nil =>
    rw [ha, List.head?_nil, eq_comm, List.head?_eq_none_iff] at hhead
    rw [hhead]
  | cons first others =>
    rw [ha, List.head?_cons, eq_comm, List.head?_eq_some_iff] at hhead
    obtain ⟨others', hb⟩ := hhead
    rw [hb]
    cases b.family <;> rfl

end Mask

namespace Network

variable {n : Network} {a : Address}

/-! ## Broadcast addresses of broadcast addresses -/

theorem family_broadcast (n : Network) : n.broadcast.family = n.address.family :=
  Address.family_eq_iff.mpr n.size_broadcast

/-- The broadcast address implies the same mask as the address that it was made of, since filling
leaves the first octet alone. -/
theorem fillMask_broadcast (n : Network) : fillMask ⟨n.broadcast, n.mask⟩ = n.fillMask := by
  unfold fillMask
  split
  · next hempty =>
    apply Mask.classful_congr n.family_broadcast
    rw [broadcast, if_pos hempty, octets_combine]
    exact Bits.head?_onCommonStart_fill (Mask.head?_aligned_classful n.address _) n.address.octets
  · rfl

theorem broadcast_broadcast (n : Network) : broadcast ⟨n.broadcast, n.mask⟩ = n.broadcast := by
  rw [broadcast_eq_combine ⟨n.broadcast, n.mask⟩, fillMask_broadcast, broadcast_eq_combine n]
  exact combine_combine Bits.fill_fill ⟨n.address, n.fillMask⟩

/-- With a mask for every octet, the addresses of a network are those of its family that have its
broadcast address. -/
theorem Covered.contains_iff_broadcast_eq (h : n.Covered) : n.contains a = true ↔
    a.family = n.address.family ∧ broadcast ⟨a, n.mask⟩ = n.broadcast := by
  rw [contains_iff_base_eq, base_eq_iff_broadcast_eq h.isEmpty_mask]
  constructor
  · rintro ⟨-, -, hfamily, hbroadcast⟩
    exact ⟨hfamily, hbroadcast⟩
  · rintro ⟨hfamily, hbroadcast⟩
    exact ⟨h.isEmpty_mask, h.length_alignedMask, hfamily, hbroadcast⟩

/-! ## Masks of sixteen octets for IPv4 addresses -/

/-- The network with the last four octets of its mask in place of the mask. -/
def shortened (n : Network) : Network :=
  ⟨n.address, Mask.ofOctets (n.mask.octets.drop 12)⟩

section Shortened

variable (hv4 : n.address.isV4 = true) (hmask : n.mask.size = 16)

include hmask

theorem octets_shortened : n.shortened.mask.octets = n.mask.octets.drop 12 := by
  apply Mask.octets_ofOctets
  left
  rw [List.length_drop, show n.mask.octets.length = 16 from hmask]

theorem isEmpty_mask_of_size : n.mask.isEmpty = false := by
  rw [Mask.isEmpty_eq_false_iff, hmask]
  decide

theorem isEmpty_mask_shortened : n.shortened.mask.isEmpty = false := by
  rw [Mask.isEmpty_eq_false_iff, Mask.size, octets_shortened hmask, List.length_drop,
    show n.mask.octets.length = 16 from hmask]
  decide

include hv4

/-- Of either mask the same octets apply. -/
theorem alignedMask_shortened : n.shortened.alignedMask = n.alignedMask := by
  have hsize : n.address.size = 4 := Address.isV4_iff.mp hv4
  have hshort : n.shortened.mask.size = n.shortened.address.size := by
    rw [Mask.size, octets_shortened hmask, List.length_drop,
      show n.mask.octets.length = 16 from hmask, show n.shortened.address.size = 4 from hsize]
  rw [alignedMask_of_size_mask hshort, octets_shortened hmask, alignedMask, Mask.aligned,
    if_pos ⟨hsize, hmask⟩]

theorem contains_shortened (a : Address) : n.shortened.contains a = n.contains a := by
  unfold contains
  rw [alignedMask_shortened hv4 hmask, isEmpty_mask_shortened hmask, isEmpty_mask_of_size hmask]
  rfl

theorem broadcast_shortened : n.shortened.broadcast = n.broadcast := by
  apply Address.ext
  rw [broadcast_eq (isEmpty_mask_shortened hmask), broadcast_eq (isEmpty_mask_of_size hmask),
    octets_combine, octets_combine, alignedMask_shortened hv4 hmask]
  rfl

theorem toText_shortened : n.shortened.toText = n.toText := by
  have hset : n.address.size ≠ 0 := by
    rw [Address.isV4_iff.mp hv4]
    decide
  -- What applies is a mask of its own, so that neither mask is printed in full in place of it.
  have hprinted : (Mask.ofOctets n.alignedMask).isEmpty = false := by
    rw [Mask.isEmpty_eq_false_iff]
    exact size_ofOctets_alignedMask_ne hset (isEmpty_mask_of_size hmask)
  simp only [toText, alignedMask_shortened hv4 hmask, isEmpty_mask_shortened hmask,
    isEmpty_mask_of_size hmask, hprinted]
  rfl

end Shortened

/-! ## Main result -/

/-- The broadcast address has the family of the network's address and is its own broadcast address,
under the network's mask or an implied one. With a mask for every octet, the addresses of the network
are those with its family and its broadcast address. Of a mask of sixteen octets an IPv4 network has
the last four. -/
theorem broadcast_partition (n : Network) :
    n.broadcast.family = n.address.family ∧
      broadcast ⟨n.broadcast, n.mask⟩ = n.broadcast ∧
      (n.Covered → ∀ a : Address, n.contains a = true ↔
        a.family = n.address.family ∧ broadcast ⟨a, n.mask⟩ = n.broadcast) ∧
      (n.address.isV4 = true → n.mask.size = 16 →
        (∀ a : Address, n.shortened.contains a = n.contains a) ∧
          n.shortened.broadcast = n.broadcast ∧ n.shortened.toText = n.toText) := by
  refine ⟨n.family_broadcast, n.broadcast_broadcast, ?_, ?_⟩
  · intro hcovered a
    exact hcovered.contains_iff_broadcast_eq
  · intro hv4 hmask
    exact ⟨contains_shortened hv4 hmask, broadcast_shortened hv4 hmask,
      toText_shortened hv4 hmask⟩

/-- A mask with zeros between its ones, sixteen octets long, on an IPv4 address. -/
theorem broadcast_partition_scattered :
    let mask := Mask.ofOctets (List.replicate 12 0 ++ [0xff, 0, 0xf0, 0x81])
    let n : Network := ⟨Address.v4 198 51 100 7, mask⟩
    n.Covered ∧ n.contains (Address.v4 198 9 111 1) = true ∧
      broadcast ⟨Address.v4 198 9 111 1, mask⟩ = Address.v4 198 255 111 127 ∧
      n.broadcast = Address.v4 198 255 111 127 ∧
      n.shortened.broadcast = n.broadcast ∧
      n.shortened.toText = Text.ofString "198.51.100.7/255.0.240.129" := by
  have hcovered : Network.Covered ⟨Address.v4 198 51 100 7,
      Mask.ofOctets (List.replicate 12 0 ++ [0xff, 0, 0xf0, 0x81])⟩ := ⟨rfl, rfl⟩
  obtain ⟨-, -, hcontains, hshort⟩ := broadcast_partition ⟨Address.v4 198 51 100 7,
    Mask.ofOctets (List.replicate 12 0 ++ [0xff, 0, 0xf0, 0x81])⟩
  obtain ⟨-, hbroadcast, htext⟩ := hshort rfl rfl
  have hin := (hcontains hcovered (Address.v4 198 9 111 1)).mpr ⟨rfl, by decide⟩
  exact ⟨hcovered, hin, rfl, rfl, hbroadcast, htext.trans rfl⟩

end Network

end LocalNet
