import LocalNet.Interface.Flags
import LocalNet.Proofs.Splitting

/-!
# Flags and their names

A set of flags holds what the kernel reports by six bits of its word, and it is printed as the names
of its flags.

- `Flags.has_ofList`: the set of given flags holds them and no others;
- `Flags.has_ofKernel`: which bit of the kernel gives which flag;
- `Flags.pieces_toText`: which names are printed for a set, and in which order.
-/

namespace LocalNet

/-- No two flags share a bit. -/
theorem Flag.bit_and_bit (f g : Flag) : f.bit &&& g.bit = if f = g then f.bit else 0 := by
  cases f <;> cases g <;> rfl

theorem Flag.bit_ne_zero (f : Flag) : f.bit ≠ 0 := by
  cases f <;> decide

namespace Flags

/-- A flag that is added to a word is in it afterwards, and no other flag comes in with it. -/
theorem or_bit_and_bit (bits : UInt32) (f g : Flag) :
    (bits ||| g.bit) &&& f.bit ≠ 0 ↔ bits &&& f.bit ≠ 0 ∨ f = g := by
  have hdistrib : (bits ||| g.bit) &&& f.bit = bits &&& f.bit ||| g.bit &&& f.bit :=
    UInt32.eq_of_toBitVec_eq BitVec.and_or_distrib_right
  rw [hdistrib, Ne, UInt32.or_eq_zero_iff, not_and_or, g.bit_and_bit f]
  by_cases heq : f = g
  · simp [heq, g.bit_ne_zero]
  · simp [heq, Ne.symm heq]

/-- The flags of a word to which flags are added one after the other. -/
theorem foldl_and_bit (flags : List Flag) (f : Flag) (bits : UInt32) :
    flags.foldl (fun bits g => bits ||| g.bit) bits &&& f.bit ≠ 0 ↔
      bits &&& f.bit ≠ 0 ∨ f ∈ flags := by
  induction flags generalizing bits with
  | nil => simp
  | cons g flags ih => rw [List.foldl_cons, ih, or_bit_and_bit, List.mem_cons, or_assoc]

/-- The set of given flags holds them and no others. -/
theorem has_ofList (flags : List Flag) (f : Flag) :
    (ofList flags).has f = true ↔ f ∈ flags := by
  rw [has, bne_iff_ne, ofList, foldl_and_bit]
  simp

/-- The kernel reports each flag by one bit of its word. -/
theorem has_ofKernel (word : UInt32) : ∀ p ∈ [(Flag.up, (0x0001 : UInt32)),
    (.broadcast, 0x0002), (.loopback, 0x0008), (.pointToPoint, 0x0010), (.multicast, 0x1000),
    (.running, 0x0040)], (ofKernel word).has p.1 = true ↔ word &&& p.2 ≠ 0 := by
  have hflag (f : Flag) : (ofKernel word).has f = true ↔ word &&& f.kernelBit ≠ 0 := by
    have hall : f ∈ Flag.all := by cases f <;> decide
    rw [ofKernel, has_ofList, List.mem_filter, bne_iff_ne]
    simp [hall]
  simp only [List.forall_mem_cons]
  exact ⟨hflag .up, hflag .broadcast, hflag .loopback, hflag .pointToPoint, hflag .multicast,
    hflag .running, by simp⟩

/-- The names of the flags in a set are printed in the order of their bits, with bars between them.
If there are none, a zero is printed. -/
theorem pieces_toText (s : Flags) :
    let present := [((0x01 : UInt32), "up"), (0x02, "broadcast"), (0x04, "loopback"),
      (0x08, "pointtopoint"), (0x10, "multicast"),
      (0x20, "running")].filter fun p => s.bits &&& p.1 != 0
    s.toText.pieces (· == '|'.toUInt8) =
      if present.isEmpty then [Text.ofString "0"] else present.map fun p => Text.ofString p.2 := by
  intro present
  have hpresent : present = (Flag.all.filter s.has).map fun f => (f.bit, f.name) :=
    List.filter_map (l := Flag.all) (f := fun f => (f.bit, f.name))
      (p := fun p => s.bits &&& p.1 != 0)
  rw [hpresent, List.map_map, List.isEmpty_map, toText]
  cases Flag.all.filter s.has with
  | nil => exact Text.pieces_of_notMem (by decide)
  | cons f others =>
    -- No name holds a bar, so that the bars are those between the names.
    have hbars : ∀ part ∈ (f :: others).map fun f => Text.ofString f.name, '|'.toUInt8 ∉ part := by
      intro part hpart
      obtain ⟨g, -, rfl⟩ := List.mem_map.mp hpart
      cases g <;> decide
    exact Text.pieces_intercalate hbars (by simp)

end Flags

end LocalNet
