import LocalNet.Network
import LocalNet.Proofs.Numerals
import LocalNet.Proofs.Splitting

/-!
# Octets of printed addresses and networks

Printed addresses consist of hexadecimal digits, dots and colons (`Address.isTextOctet`), and so do
printed link-layer addresses; printed networks consist of these and a slash. So none of them holds a
blank, a line feed or a zero octet.
-/

namespace LocalNet

/-- Whether an octet may occur in a printed address: a hexadecimal digit, a dot or a colon. -/
def Address.isTextOctet (c : UInt8) : Bool :=
  (Hex.digit? c).isSome || c == '.'.toUInt8 || c == ':'.toUInt8

/-- Whether an octet may occur in a printed network: one of a printed address, or a slash. -/
def Network.isTextOctet (c : UInt8) : Bool :=
  Address.isTextOctet c || c == '/'.toUInt8

/-- A decimal digit is a hexadecimal one. -/
theorem Hex.isSome_digit?_of_isDigit {c : UInt8} (hc : Decimal.isDigit c = true) :
    (Hex.digit? c).isSome = true := by
  unfold Decimal.isDigit at hc
  simp [Hex.digit?, hc]

/-- An octet is printed as two hexadecimal digits. -/
theorem Hex.isSome_digit?_of_mem_octet {b c : UInt8} (hc : c ∈ octet b) :
    (Hex.digit? c).isSome = true := by
  have hhigh : b.toNat / 16 < 16 := by have := b.toNat_lt; omega
  have hlow : b.toNat % 16 < 16 := Nat.mod_lt _ (by decide)
  rcases List.mem_pair.mp hc with rfl | rfl
  · simp [digit?_digitChar hhigh]
  · simp [digit?_digitChar hlow]

/-- A printed link-layer address consists of hexadecimal digits and colons. -/
theorem Hex.mem_withColons {octets : List UInt8} {c : UInt8} (hc : c ∈ withColons octets) :
    c = ':'.toUInt8 ∨ (digit? c).isSome = true := by
  rcases Text.mem_intercalate hc with hcolon | ⟨part, hpart, hmem⟩
  · exact .inl hcolon
  · obtain ⟨b, -, rfl⟩ := List.mem_map.mp hpart
    exact .inr (isSome_digit?_of_mem_octet hmem)

namespace Address

theorem isTextOctet_of_isDigit {c : UInt8} (hc : Decimal.isDigit c = true) :
    isTextOctet c = true := by
  simp [isTextOctet, Hex.isSome_digit?_of_isDigit hc]

theorem isTextOctet_dotted {octets : List UInt8} : ∀ c ∈ dotted octets, isTextOctet c = true := by
  intro c hc
  rcases Text.mem_intercalate hc with rfl | ⟨part, hpart, hmem⟩
  · decide
  · obtain ⟨b, -, rfl⟩ := List.mem_map.mp hpart
    exact isTextOctet_of_isDigit (Decimal.isDigit_of_mem_ofNat hmem)

theorem isTextOctet_colonHex {gs : List Nat} : ∀ c ∈ colonHex gs, isTextOctet c = true := by
  intro c hc
  rcases Text.mem_intercalate hc with rfl | ⟨part, hpart, hmem⟩
  · decide
  · obtain ⟨g, -, rfl⟩ := List.mem_map.mp hpart
    simp [isTextOctet, Hex.isSome_digit?_of_mem_ofNat hmem]

theorem isTextOctet_compressed {octets : List UInt8} :
    ∀ c ∈ compressed octets, isTextOctet c = true := by
  intro c hc
  -- The four forms of the printer, in its order.
  have hmark : ∀ c ∈ Text.ofString "::", isTextOctet c = true := List.all_eq_true.mp rfl
  have hmapped : ∀ c ∈ Text.ofString "::ffff:", isTextOctet c = true := List.all_eq_true.mp rfl
  unfold compressed at hc
  simp only at hc
  split at hc
  · exact isTextOctet_colonHex c hc
  · split at hc
    · exact (List.mem_append.mp hc).elim (hmark c) (isTextOctet_dotted c)
    · split at hc
      · exact (List.mem_append.mp hc).elim (hmapped c) (isTextOctet_dotted c)
      · rcases List.mem_append.mp hc with hc | hc
        · exact (List.mem_append.mp hc).elim (isTextOctet_colonHex c) (hmark c)
        · exact isTextOctet_colonHex c hc

/-- A printed address consists of hexadecimal digits, dots and colons. -/
theorem isTextOctet_toText (a : Address) : ∀ c ∈ a.toText, isTextOctet c = true := by
  unfold toText
  split
  · simp
  · exact isTextOctet_dotted
  · exact isTextOctet_compressed

theorem isTextOctet_withColons {octets : List UInt8} :
    ∀ c ∈ Hex.withColons octets, isTextOctet c = true := by
  intro c hc
  rcases Hex.mem_withColons hc with rfl | hdigit
  · decide
  · simp [isTextOctet, hdigit]

end Address

namespace Mask

theorem isTextOctet_toText (m : Mask) : ∀ c ∈ m.toText, Address.isTextOctet c = true := by
  unfold toText
  split
  · exact Address.isTextOctet_dotted
  · intro c hc
    obtain ⟨b, -, hb⟩ := List.mem_flatMap.mp hc
    simp [Address.isTextOctet, Hex.isSome_digit?_of_mem_octet hb]

end Mask

namespace Network

theorem isTextOctet_of_address {c : UInt8} (hc : Address.isTextOctet c = true) :
    isTextOctet c = true := by
  simp [isTextOctet, hc]

/-- A printed network consists of hexadecimal digits, dots, colons and slashes. -/
theorem isTextOctet_toText (n : Network) : ∀ c ∈ n.toText, isTextOctet c = true := by
  intro c hc
  unfold toText at hc
  split at hc
  · exact isTextOctet_of_address (n.address.isTextOctet_toText c hc)
  · simp only [List.mem_append] at hc
    rcases hc with (hc | hc) | hc
    · exact isTextOctet_of_address (n.address.isTextOctet_toText c hc)
    · have hslash : ∀ c ∈ Text.ofString "/", isTextOctet c = true := List.all_eq_true.mp rfl
      exact hslash c hc
    · -- Behind the slash stands a prefix length or a mask.
      apply isTextOctet_of_address
      split at hc
      · exact Address.isTextOctet_of_isDigit (Decimal.isDigit_of_mem_ofNat hc)
      · split at hc
        · exact n.mask.isTextOctet_toText c hc
        · exact (Mask.ofOctets n.alignedMask).isTextOctet_toText c hc

end Network

end LocalNet
