import LocalNet.Platform
import LocalNet.Proofs.LeadingNumerals
import LocalNet.Proofs.Storage

/-!
# Permission for privileged ports

Privileged ports may be bound by the superuser, with a capability, or if the first port that needs no
privilege is zero. That port is read off the first octets of a file, first as a number within 64 bits
and then by its low 32 bits, so that other numerals than those of zero pass for a zero.

- `Numeral.Padded.PassesForZero`: the numerals that do;
- `Numeral.Padded.passesForZero_iff_value_eq_zero`: of the short and small ones, only those of zero;
- `LinuxSettings.mayBindPrivileged_decision`: the answer for every user, every set of capabilities and
  every numeral.
-/

namespace LocalNet

/-! ## Numerals that pass for zero -/

namespace Numeral

/-- The low 32 bits of an integer are zero if it is a multiple of 2 to the power of 32. -/
theorem ofInt_eq_zero_iff (v : Int) : Int32.ofInt v = 0 ↔ 4294967296 ∣ v := by
  rw [← Int32.toInt_inj, Int32.toInt_ofInt]
  change v.bmod 4294967296 = 0 ↔ 4294967296 ∣ v
  simp only [Int.bmod]
  split <;> omega

namespace Padded

variable (p : Padded)

/-- The first 63 octets show an integer that is too small for 64 bits, or that fits into them and has
zeros in its low 32 bits. -/
def PassesForZero : Prop :=
  ∃ v, (p.cut 63).value? = some v ∧
    (v < -9223372036854775808 ∨ v ≤ 9223372036854775807 ∧ 4294967296 ∣ v)

variable {p}

/-- Nothing of a numeral is cut off if it ends in time. -/
theorem value?_cut {room : Nat} (hdigits : p.digits ≠ [])
    (hroom : p.before.length + p.sign.text.length + p.digits.length ≤ room) :
    (p.cut room).value? = some p.value := by
  have hpos : 0 < p.digits.length := List.length_pos_iff.mpr hdigits
  have hcut : (p.cut room).digits = p.digits := List.take_of_length_le (by omega)
  have hsign : (p.cut room).sign = p.sign := if_pos (by omega)
  rw [value?, value, hcut, hsign, if_neg hdigits, value]

/-- The numerals that pass for zero among those that end in time. -/
theorem passesForZero_iff (hdigits : p.digits ≠ [])
    (hroom : p.before.length + p.sign.text.length + p.digits.length ≤ 63) :
    p.PassesForZero ↔ p.value < -9223372036854775808 ∨
      p.value ≤ 9223372036854775807 ∧ 4294967296 ∣ p.value := by
  rw [PassesForZero, value?_cut hdigits hroom]
  simp only [Option.some.injEq, exists_eq_left']

/-- If they are small as well, only those of zero do. -/
theorem passesForZero_iff_value_eq_zero (hdigits : p.digits ≠ [])
    (hroom : p.before.length + p.sign.text.length + p.digits.length ≤ 63)
    (hsmall : p.value.natAbs < 4294967296) : p.PassesForZero ↔ p.value = 0 := by
  rw [passesForZero_iff hdigits hroom]
  omega

end Padded

end Numeral

/-! ## The first port that needs no privilege -/

/-- The states of a file that holds one numeral between blanks: it is missing, or it can be opened and
its readers are not interrupted. -/
inductive Host.HoldsNumeral (path : Text) (h : Host) : Option Numeral.Padded → Prop
  /-- Nothing is at the path. -/
  | absent (hfile : h.fileAt path = none) : HoldsNumeral path h none
  /-- The content is a numeral with blanks around it. -/
  | present {file : File} {p : Numeral.Padded} (hserves : h.Serves path file)
    (hcontent : file.content = p.text) (hdigits : p.digits ≠ []) : HoldsNumeral path h (some p)

/-- What is read of a numeral are the low 32 bits of what its first octets show, within 64 bits. -/
theorem Host.Serves.fst_readInt32 {path : Text} {file : File} {h : Host} {p : Numeral.Padded}
    (hserves : h.Serves path file) (hcontent : file.content = p.text) (default : Int32) :
    (h.readInt32 (some path) default 10).1 =
      (((p.cut 63).value?.map Numeral.clamp64).map Int32.ofInt).getD default := by
  have hsmall : (h.readSmall (some path) integerBufferSize).1 = Text.stripEnd (p.cut 63).text := by
    rw [hserves.fst_readSmall (by decide), hcontent, p.text_cut]
    rfl
  have hnul : Text.untilNul (Text.stripEnd (p.cut 63).text) = Text.stripEnd (p.cut 63).text := by
    rw [Text.untilNul, List.takeWhile_eq_self_iff]
    intro c hc
    have hmem : c ∈ (p.cut 63).text := (List.rdropWhile_prefix _ _).mem hc
    exact bne_iff_ne.mpr ((p.cut 63).ne_zero_of_mem_text hmem)
  rw [Host.fst_readInt32_ten, hsmall, hnul, Numeral.leading?_stripEnd, Numeral.Padded.leading?_text]

/-- The file is taken to hold a zero if it holds a numeral that passes for zero. -/
theorem Host.HoldsNumeral.fst_readInt32_eq_zero_iff {path : Text} {h : Host}
    {start : Option Numeral.Padded} (hholds : h.HoldsNumeral path start) :
    (h.readInt32 (some path) (-1) 10).1 = 0 ↔ ∃ p, start = some p ∧ p.PassesForZero := by
  cases hholds with
  | absent hfile =>
    rw [Host.fst_readInt32_ten, fst_readSmall_of_absent hfile]
    exact iff_of_false (by decide) (by simp)
  | @present file p hserves hcontent hdigits =>
    rw [hserves.fst_readInt32 hcontent]
    simp only [Option.some.injEq, exists_eq_left', Numeral.Padded.PassesForZero]
    cases (p.cut 63).value? with
    | none => exact iff_of_false (by decide) (by simp)
    | some v =>
      simp only [Option.map_some, Option.getD_some, Option.some.injEq, exists_eq_left',
        Numeral.ofInt_eq_zero_iff, Numeral.dvd_clamp64_iff]

namespace LinuxSettings

variable (s : LinuxSettings) {h : Host}

/-! ## The answer by user and capabilities -/

theorem fst_mayBindPrivileged_of_superuser (huser : h.userId = 0) :
    (s.mayBindPrivileged h).1 = ⟨true, none⟩ := by
  have hsuper : h.isSuperuser = true := beq_iff_eq.mpr huser
  rw [mayBindPrivileged, if_pos hsuper]

theorem fst_mayBindPrivileged_of_error {number : Errno} (huser : h.userId ≠ 0)
    (hcapabilities : h.capabilities = .error number) :
    (s.mayBindPrivileged h).1 = ⟨false,
      some (Fault.ofErrno .capability number (Text.ofString "reading capability sets"))⟩ := by
  have hsuper : ¬ h.isSuperuser = true := fun hzero => huser (beq_iff_eq.mp hzero)
  rw [mayBindPrivileged, if_neg hsuper]
  simp only [Host.hasCapability, bindCapability, hcapabilities]
  rfl

theorem fst_mayBindPrivileged_of_ok {set : UInt64} (huser : h.userId ≠ 0)
    (hcapabilities : h.capabilities = .ok set) :
    (s.mayBindPrivileged h).1 =
      ⟨set.toNat.testBit 10 || (h.readInt32 (some s.portStartPath) (-1) 10).1 == 0, none⟩ := by
  have hsuper : ¬ h.isSuperuser = true := fun hzero => huser (beq_iff_eq.mp hzero)
  have hheld : h.hasCapability bindCapability = ⟨set.toNat.testBit 10, none⟩ := by
    simp only [Host.hasCapability, bindCapability, hcapabilities]
    rfl
  rw [mayBindPrivileged, if_neg hsuper, hheld]
  cases set.toNat.testBit 10 <;> rfl

/-! ## Main results -/

section Main

variable {start : Option Numeral.Padded}

/-- The decision on privileged ports. There is a fault, and the answer no, if the user is not the
superuser and the capabilities cannot be read. Otherwise the answer is yes for the superuser, with
the capability, and where the file holds a numeral that passes for zero. Of the numerals that end
within 63 octets, those do that are too small for 64 bits or fit into them as multiples of 2 to the
power of 32, and of the small ones only those of zero. -/
theorem mayBindPrivileged_decision (hholds : h.HoldsNumeral s.portStartPath start) :
    (∀ fault : Fault, (s.mayBindPrivileged h).1 = ⟨false, some fault⟩ ↔
        h.userId ≠ 0 ∧ ∃ number, h.capabilities = .error number ∧
          fault = Fault.ofErrno .capability number (Text.ofString "reading capability sets")) ∧
      ((s.mayBindPrivileged h).1 = ⟨true, none⟩ ↔
        h.userId = 0 ∨ ∃ set, h.capabilities = .ok set ∧
          (set.toNat.testBit 10 = true ∨ ∃ p, start = some p ∧ p.PassesForZero)) ∧
      ((s.mayBindPrivileged h).1.fault ≠ none → (s.mayBindPrivileged h).1.value = false) ∧
      ∀ p, start = some p →
        p.before.length + p.sign.text.length + p.digits.length ≤ 63 →
        (p.PassesForZero ↔ p.value < -9223372036854775808 ∨
          p.value ≤ 9223372036854775807 ∧ 4294967296 ∣ p.value) ∧
        (p.value.natAbs < 4294967296 → (p.PassesForZero ↔ p.value = 0)) := by
  have hshort : ∀ p, start = some p →
      p.before.length + p.sign.text.length + p.digits.length ≤ 63 →
      (p.PassesForZero ↔ p.value < -9223372036854775808 ∨
        p.value ≤ 9223372036854775807 ∧ 4294967296 ∣ p.value) ∧
      (p.value.natAbs < 4294967296 → (p.PassesForZero ↔ p.value = 0)) := by
    rintro p rfl hroom
    cases hholds with
    | present _ _ hdigits =>
      exact ⟨Numeral.Padded.passesForZero_iff hdigits hroom,
        Numeral.Padded.passesForZero_iff_value_eq_zero hdigits hroom⟩
  -- The file is only read once the user and the capabilities have not decided.
  by_cases huser : h.userId = 0
  · rw [s.fst_mayBindPrivileged_of_superuser huser]
    exact ⟨by simp [huser], by simp [huser], by simp, hshort⟩
  · cases hcapabilities : h.capabilities with
    | error number =>
      rw [s.fst_mayBindPrivileged_of_error huser hcapabilities]
      exact ⟨by simp [huser, eq_comm], by simp [huser], by simp, hshort⟩
    | ok set =>
      rw [s.fst_mayBindPrivileged_of_ok huser hcapabilities]
      have hzero := hholds.fst_readInt32_eq_zero_iff
      exact ⟨by simp, by simp [huser, hzero], by simp, hshort⟩

/-- A zero with a sign and leading zeros, between blanks. -/
def paddedZero : Numeral.Padded where
  before := Text.ofString " \t"
  sign := .minus
  digits := Text.ofString "000"
  after := Text.ofString "\r\n"
  isBlank_before := List.all_eq_true.mp rfl
  isDigit_digits := List.all_eq_true.mp rfl
  isBlank_after := List.all_eq_true.mp rfl

/-- A host whose first port that needs no privilege is zero. -/
def zeroStart : Host where
  files :=
    [(Text.ofString "/proc/sys/net/ipv4/ip_unprivileged_port_start",
      { content := Text.ofString " \t-000\r\n", reads := [.atMost 1, .atMost 3] })]

theorem mayBindPrivileged_decision_zeroStart :
    (mayBindPrivileged {} zeroStart).1 = ⟨true, none⟩ := by
  have hserves : zeroStart.Serves (Text.ofString "/proc/sys/net/ipv4/ip_unprivileged_port_start")
      { content := Text.ofString " \t-000\r\n", reads := [.atMost 1, .atMost 3] } :=
    ⟨rfl, rfl, by decide⟩
  have hholds : zeroStart.HoldsNumeral
      (Text.ofString "/proc/sys/net/ipv4/ip_unprivileged_port_start") (some paddedZero) :=
    .present hserves rfl (by decide)
  obtain ⟨-, hyes, -, hshort⟩ := mayBindPrivileged_decision {} hholds
  obtain ⟨-, hsmall⟩ := hshort paddedZero rfl (by decide)
  have hpasses : paddedZero.PassesForZero := (hsmall (by decide)).mpr rfl
  exact hyes.mpr (.inr ⟨0, rfl, .inr ⟨paddedZero, rfl, hpasses⟩⟩)

/-- The least positive number of which the low 32 bits are zero. -/
def wideNumeral : Numeral.Padded where
  before := []
  sign := .absent
  digits := Text.ofString "4294967296"
  after := Text.ofString "\n"
  isBlank_before := List.all_eq_true.mp rfl
  isDigit_digits := List.all_eq_true.mp rfl
  isBlank_after := List.all_eq_true.mp rfl

/-- A host whose first port that needs no privilege is out of all bounds. -/
def wideStart : Host where
  files :=
    [(Text.ofString "/proc/sys/net/ipv4/ip_unprivileged_port_start",
      { content := Text.ofString "4294967296\n" })]

/-- Not only a zero permits privileged ports: a number with zeros in its low 32 bits does. -/
theorem mayBindPrivileged_of_wideStart :
    wideStart.HoldsNumeral (Text.ofString "/proc/sys/net/ipv4/ip_unprivileged_port_start")
        (some wideNumeral) ∧
      wideNumeral.value ≠ 0 ∧ wideStart.userId ≠ 0 ∧ wideStart.capabilities = .ok 0 ∧
      (mayBindPrivileged {} wideStart).1 = ⟨true, none⟩ := by
  have hserves : wideStart.Serves (Text.ofString "/proc/sys/net/ipv4/ip_unprivileged_port_start")
      { content := Text.ofString "4294967296\n" } :=
    ⟨rfl, rfl, by decide⟩
  have hholds : wideStart.HoldsNumeral
      (Text.ofString "/proc/sys/net/ipv4/ip_unprivileged_port_start") (some wideNumeral) :=
    .present hserves rfl (by decide)
  have hpasses : wideNumeral.PassesForZero :=
    ⟨4294967296, rfl, .inr ⟨by decide, Int.dvd_refl _⟩⟩
  have hzero := hholds.fst_readInt32_eq_zero_iff.mpr ⟨wideNumeral, rfl, hpasses⟩
  refine ⟨hholds, by decide, by decide, rfl, ?_⟩
  rw [fst_mayBindPrivileged_of_ok {} (by decide) rfl]
  simp [hzero]

end Main

end LinuxSettings

end LocalNet
