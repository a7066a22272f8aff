import LocalNet.Text

/-!
# Bits of octets

Masks are read bit by bit from the most significant bit of the first octet on.

- `Bits.ofOctets`: the bits of a row of octets;
- `Bits.leadingOnes`: the octet whose first bits are one;
- `Bits.onCommonStart`: an operation on two rows of octets as far as both reach.
-/

namespace LocalNet.Bits

/-- The bits of an octet, most significant first. -/
def ofOctet (b : UInt8) : List Bool :=
  (List.range 8).map fun i => b.toBitVec.getMsbD i

/-- The bits of a row of octets, most significant first. -/
def ofOctets (octets : List UInt8) : List Bool :=
  octets.flatMap ofOctet

/-- The octet whose first `n` bits are one and whose other bits are zero. -/
def leadingOnes (n : Nat) : UInt8 :=
  (255 - 255 >>> n).toUInt8

/-- The first row with its octets changed by those of the second, as far as the second reaches. -/
def onCommonStart (f : UInt8 → UInt8 → UInt8) : List UInt8 → List UInt8 → List UInt8
  | b :: bs, m :: ms => f b m :: onCommonStart f bs ms
  | bs, _ => bs

/-- The number of octets stays. -/
@[simp]
theorem length_onCommonStart (f : UInt8 → UInt8 → UInt8) (bs ms : List UInt8) :
    (onCommonStart f bs ms).length = bs.length := by
  induction bs generalizing ms with
  | nil => cases ms <;> rfl
  | cons b bs ih => cases ms <;> simp [onCommonStart, ih]

end LocalNet.Bits
