import LocalNet.Host.Survey
import LocalNet.Proofs.BoundedReads
import LocalNet.Proofs.LinkAddresses
import LocalNet.Proofs.Printing

/-!
# Attributes of links

The kernel keeps each attribute of a link in a small file of one line: the largest packet as a
decimal numeral, the flags as a hexadecimal numeral behind a mark, and the link-layer address as pairs
of digits. What a survey says of the link are the values for which the lines were written.

- `Numeral.leading?_hexMark`: a hexadecimal numeral behind its mark is read back;
- `Host.Shows`, `Host.KeepsLines`: files of one line, and that reading small files keeps them;
- `Link.Attributes`: the files of a link in the form of the kernel;
- `Host.describeLink_of_attributes`, `Host.getElem?_describeLinks`: the description of one link, and
  of each link of a list;
- `Host.listLinks_attributes`: what the list of links says of a link with such files.
-/

namespace LocalNet

/-! ## Words -/

namespace Text

/-- The text holds neither blanks nor control octets. -/
def IsWord (t : Text) : Prop :=
  ∀ c ∈ t, 0x20 < c

theorem IsWord.append {s t : Text} (hs : s.IsWord) (ht : t.IsWord) : IsWord (s ++ t) :=
  fun c hc => (List.mem_append.mp hc).elim (hs c) (ht c)

theorem IsWord.untilNul_eq {t : Text} (ht : t.IsWord) : t.untilNul = t := by
  rw [untilNul, List.takeWhile_eq_self_iff]
  intro c hc
  rw [bne_iff_ne]
  rintro rfl
  exact absurd (ht 0 hc) (by decide)

/-- The line feed behind a word comes off, and nothing else does. -/
theorem IsWord.stripEnd_line {t : Text} (ht : t.IsWord) :
    stripEnd (t ++ Text.ofString "\n") = t := by
  -- Behind the line feed stands the end of the word, which is none of the four blanks.
  have hlast : ∀ hne : t ≠ [], ¬ isTrailingBlank (t.getLast hne) = true := by
    intro hne hblank
    have hgraphic := ht _ (List.getLast_mem hne)
    simp only [isTrailingBlank, Bool.or_eq_true, beq_iff_eq] at hblank
    rcases hblank with ((heq | heq) | heq) | heq <;>
      exact absurd hgraphic (by rw [heq]; decide)
  have hline : stripEnd (t ++ Text.ofString "\n") = t.rdropWhile isTrailingBlank :=
    List.rdropWhile_concat_pos _ _ _ rfl
  rw [hline, List.rdropWhile_eq_self_iff]
  exact hlast

end Text

/-! ## Numerals of the kernel -/

theorem Decimal.isWord_ofNat (n : Nat) : Text.IsWord (ofNat n) := by
  intro c hc
  have hdigit := (isDigit_iff.mp (isDigit_of_mem_ofNat hc)).1
  rw [UInt8.lt_iff_toNat_lt]
  change 32 < c.toNat
  omega

theorem Hex.Denotes.isWord {c : UInt8} {n : Nat} (h : Hex.Denotes c n) : 0x20 < c := by
  have hn := h.lt
  rcases h with h | h <;> interval_cases n <;> cases h <;> decide

theorem Hex.isWord_of_isSome_digit? {c : UInt8} (hc : (digit? c).isSome = true) : 0x20 < c := by
  obtain ⟨d, hd⟩ := Option.isSome_iff_exists.mp hc
  exact (digit?_eq_some_iff.mp hd).isWord

theorem Hex.isWord_ofNat (n : Nat) : Text.IsWord (ofNat n) :=
  fun _ hc => isWord_of_isSome_digit? (isSome_digit?_of_mem_ofNat hc)

theorem Hex.isWord_withColons (octets : List UInt8) : Text.IsWord (withColons octets) := by
  intro c hc
  rcases mem_withColons hc with rfl | hdigit
  · decide
  · exact isWord_of_isSome_digit? hdigit

theorem Hex.length_withColons_le (octets : List UInt8) :
    (withColons octets).length ≤ 3 * octets.length := by
  have hparts : ∀ part ∈ octets.map octet, part.length ≤ 2 := by
    intro part hpart
    obtain ⟨b, -, rfl⟩ := List.mem_map.mp hpart
    exact Nat.le_refl 2
  have hlength : (withColons octets).length ≤ (2 + 1) * (octets.map octet).length :=
    Text.length_intercalate_le hparts
  rwa [List.length_map] at hlength

namespace Numeral

/-- The digits of a hexadecimal numeral have the same value in every base that has them. -/
theorem digit?_of_denotes {c : UInt8} {n : Nat} (h : Hex.Denotes c n) : digit? c = some n := by
  have hn := h.lt
  rcases h with h | h <;> interval_cases n <;> cases h <;> rfl

theorem digits_of_mapM {t : Text} {ds : List Nat} (h : t.mapM Hex.digit? = some ds) :
    digits 16 t = ds := by
  rw [mapM_eq_some_iff] at h
  induction h with
  | nil => rfl
  | cons hc _ ih =>
    have hdenotes := Hex.digit?_eq_some_iff.mp hc
    rw [digits, digit?_of_denotes hdenotes]
    simp only [hdenotes.lt, if_true, ih]

theorem clamp64_of_nat {n : Nat} (hn : n < 2 ^ 63) : clamp64 n = n := by
  unfold clamp64
  rw [if_neg (by omega), if_neg (by omega)]

/-- A decimal numeral is read back. -/
theorem leading?_ofNat {n : Nat} (hn : n < 2 ^ 63) :
    leading? 10 (Decimal.ofNat n) = some (n : Int) := by
  -- It is a numeral between blanks of which there are none here.
  have hread := Padded.leading?_text
    { before := [], sign := .absent, digits := Decimal.ofNat n, after := [],
      isBlank_before := by simp, isDigit_digits := fun _ => Decimal.isDigit_of_mem_ofNat,
      isBlank_after := by simp }
  simp only [Padded.text, Padded.value?, Padded.value, Sign.text, Sign.apply, List.nil_append,
    List.append_nil, Decimal.ofNat_ne_nil, if_false, Decimal.value_ofNat, Option.map_some,
    clamp64_of_nat hn] at hread
  exact hread

/-- A hexadecimal numeral is read back behind its mark. -/
theorem leading?_hexMark {n : Nat} (hn : n < 2 ^ 63) :
    leading? 16 (Text.ofString "0x" ++ Hex.ofNat n) = some (n : Int) := by
  obtain ⟨ds, hds, hvalue⟩ := Hex.mapM_digit?_ofNat n
  have hdigits := digits_of_mapM hds
  have hne : ds ≠ [] := by
    rintro rfl
    exact Hex.ofNat_ne_nil n (List.length_eq_zero_iff.mp (length_of_mapM_eq_some hds).symm)
  have hmark : afterHexMark? (Text.ofString "0x" ++ Hex.ofNat n) = some (Hex.ofNat n) :=
    if_pos ⟨rfl, .inl rfl, fun hnil => hne (hdigits.symm.trans hnil)⟩
  -- The mark starts with a digit, which is neither a blank nor a sign.
  have hsign : sign ((Text.ofString "0x" ++ Hex.ofNat n).dropWhile Text.isBlank) =
      (false, Text.ofString "0x" ++ Hex.ofNat n) := rfl
  have hbase : resolveBase 16 (Text.ofString "0x" ++ Hex.ofNat n) = (16, Hex.ofNat n) := by
    unfold resolveBase
    rw [hmark]
    rfl
  unfold leading?
  rw [if_neg (by decide)]
  simp only [hsign, show (16 : Int).toNat = 16 from rfl, hbase, hdigits]
  obtain ⟨d, others, rfl⟩ := List.exists_cons_of_ne_nil hne
  simp only [hvalue, clamp64_of_nat hn, Bool.false_eq_true, if_false]

end Numeral

/-! ## Files of one line -/

namespace Host

/-- The file at a path holds one line, can be opened, and nothing interrupts its readers. -/
def Shows (path text : Text) (h : Host) : Prop :=
  ∃ file, h.Serves path file ∧ file.content = text ++ Text.ofString "\n"

/-- A word is read whole if there is room for its line. -/
theorem Shows.fst_readSmall {path text : Text} {h : Host} (hshows : h.Shows path text)
    (hword : text.IsWord) {size : Nat} (hroom : text.length + 1 < size) :
    (h.readSmall (some path) size).1 = text := by
  obtain ⟨file, hserves, hcontent⟩ := hshows
  rw [hserves.fst_readSmall (by omega), hcontent, List.take_of_length_le, hword.stripEnd_line]
  rw [List.length_append]
  change text.length + 1 ≤ size - 1
  omega

/-- The integer of a numeral is read if there is room for its line. -/
theorem Shows.fst_readInt32 {path text : Text} {h : Host} (hshows : h.Shows path text)
    (hword : text.IsWord) (hne : text ≠ []) (hroom : text.length + 1 < integerBufferSize)
    {base v : Int} (hvalue : Numeral.leading? base text = some v) (default : Int32) :
    (h.readInt32 (some path) default base).1 = Int32.ofInt v := by
  rw [Host.fst_readInt32, hshows.fst_readSmall hword hroom, if_neg hne, hword.untilNul_eq, hvalue]
  rfl

/-- Every line that one host shows the other one shows too. -/
def KeepsLines (h h' : Host) : Prop :=
  ∀ path text, h.Shows path text → h'.Shows path text

/-- A reader uses up events of one schedule, and what it leaves of them interrupts nobody if nothing
did before. -/
theorem keepsLines_readStart (path : Option Text) (room : Nat) (h : Host) :
    h.KeepsLines (h.readStart path room).2 := by
  unfold readStart
  split
  · exact fun _ _ => id
  · next path =>
    split
    · exact fun _ _ => id
    · next file hopen =>
      rintro other text ⟨file', hserves, hcontent⟩
      by_cases hsame : other.untilNul = path.untilNul
      · -- The file that was read is the one at the other path.
        have hfile : file' = file := by
          have hfile' := hserves.fileAt_eq
          rw [fileAt, hsame] at hfile'
          exact Option.some.inj (hfile'.symm.trans (openForReading_eq_ok hopen).1)
        subst hfile
        obtain ⟨replies, hfills⟩ := Stream.exists_fills room file'.stream
        refine ⟨file'.afterReading (file'.stream.fill room).2,
          ⟨?_, hserves.readOpenFault_eq, fun hmem => ?_⟩, hcontent⟩
        · rw [fileAt_putFile, if_pos hsame]
        · exact hserves.uninterrupted (hfills.schedule_subset hmem)
      · refine ⟨file', ⟨?_, hserves.readOpenFault_eq, hserves.uninterrupted⟩, hcontent⟩
        rw [fileAt_putFile, if_neg hsame, hserves.fileAt_eq]

theorem keptByReaders_keepsLines : KeptByReaders KeepsLines where
  refl _ _ _ := id
  trans first second path text hshows := second path text (first path text hshows)
  readStart := keepsLines_readStart

end Host

/-! ## Attributes -/

namespace Link

/-- The path of an attribute of a link of any length. -/
def wholePath (name : Text) (leaf : String) : Text :=
  Text.ofString "/sys/class/net/" ++ name ++ Text.ofString "/" ++ Text.ofString leaf

/-- No path of a name that is short enough is cut off. -/
theorem attributePath_eq {name : Text} {leaf : String} (hname : name.length ≤ 200)
    (hleaf : (Text.ofString leaf).length ≤ 39) : attributePath name leaf = wholePath name leaf := by
  refine List.take_of_length_le ?_
  simp only [List.length_append]
  change 15 + name.length + 1 + (Text.ofString leaf).length ≤ 255
  omega

/-- The files of a link in the form of the kernel. -/
structure Attributes (name : Text) (mtu : Nat) (word : UInt32) (octets : List UInt8) (h : Host) :
    Prop where
  /-- The largest packet as a decimal numeral. -/
  mtu : h.Shows (wholePath name "mtu") (Decimal.ofNat mtu)
  /-- The flags as a hexadecimal numeral. -/
  flags : h.Shows (wholePath name "flags") (Text.ofString "0x" ++ Hex.ofNat word.toNat)
  /-- The octets of the link-layer address. -/
  address : h.Shows (wholePath name "address") (Hex.withColons octets)

theorem Attributes.of_keepsLines {name : Text} {mtu : Nat} {word : UInt32} {octets : List UInt8}
    {h h' : Host} (hattributes : Attributes name mtu word octets h) (hkeeps : h.KeepsLines h') :
    Attributes name mtu word octets h' where
  mtu := hkeeps _ _ hattributes.mtu
  flags := hkeeps _ _ hattributes.flags
  address := hkeeps _ _ hattributes.address

section Reading

variable {name : Text} {mtu : Nat} {word : UInt32} {octets : List UInt8} {h : Host}
  (hattributes : Attributes name mtu word octets h) (hname : name.length ≤ 200)
include hattributes hname

theorem Attributes.fst_mtu (hmtu : mtu < 2 ^ 31) :
    (h.readInt32 (some (attributePath name "mtu")) 0 10).1 = Int32.ofInt mtu := by
  have hlength : (Decimal.ofNat mtu).length ≤ 10 := by
    rw [Decimal.ofNat, List.length_map, Nat.length_toDigits_le_iff (by decide) (by decide)]
    omega
  -- Ten digits and their line feed are far from filling the buffer of an integer.
  rw [attributePath_eq hname (by decide)]
  refine hattributes.mtu.fst_readInt32 (Decimal.isWord_ofNat mtu) (Decimal.ofNat_ne_nil mtu) ?_
    (Numeral.leading?_ofNat (by omega)) 0
  exact Nat.lt_of_le_of_lt (Nat.succ_le_succ hlength) (by decide)

/-- The number of the flags takes more than 31 bits if the highest flag is set, and has its low 32
bits taken. -/
theorem Attributes.fst_flags :
    (h.readInt32 (some (attributePath name "flags")) 0 16).1 = Int32.ofInt word.toNat := by
  have hlt := word.toNat_lt
  have hlength : (Hex.ofNat word.toNat).length ≤ 8 := by
    rw [Hex.ofNat, List.length_map, Nat.length_toDigits_le_iff (by decide) (by decide)]
    exact hlt
  have hmark : Text.IsWord (Text.ofString "0x") := by
    have hall : (Text.ofString "0x").all (0x20 < ·) = true := rfl
    exact fun c hc => of_decide_eq_true (List.all_eq_true.mp hall c hc)
  rw [attributePath_eq hname (by decide)]
  refine hattributes.flags.fst_readInt32 (hmark.append (Hex.isWord_ofNat _))
    (List.append_ne_nil_of_left_ne_nil (by decide) _) ?_ (Numeral.leading?_hexMark (by omega)) 0
  rw [List.length_append]
  change 2 + (Hex.ofNat word.toNat).length + 1 < 64
  omega

/-- The text of 42 octets is as long as the buffer allows. -/
theorem Attributes.fst_address (hoctets : octets.length ≤ 42) :
    (h.readSmall (some (attributePath name "address")) addressBufferSize).1 =
      Hex.withColons octets := by
  have hlength := Hex.length_withColons_le octets
  rw [attributePath_eq hname (by decide)]
  refine hattributes.address.fst_readSmall (Hex.isWord_withColons octets) ?_
  change (Hex.withColons octets).length + 1 < 128
  omega

end Reading

end Link

/-- The low 32 bits of a word are the word. -/
theorem toUInt32_ofInt (word : UInt32) : (Int32.ofInt (word.toNat : Int)).toUInt32 = word := by
  apply UInt32.toBitVec_inj.mp
  simp

namespace Host

/-- A link with attributes in the form of the kernel is described by their values. -/
theorem describeLink_of_attributes {name : Text} {mtu : Nat} {word : UInt32} {octets : List UInt8}
    {h : Host} (hattributes : Link.Attributes name mtu word octets h) (hname : name.length ≤ 200)
    (hmtu : mtu < 2 ^ 31) (hoctets : octets.length ≤ 42) (index : Nat) :
    (h.describeLink index name).1 =
      { name, index, mtu := Int32.ofInt mtu, flags := Flags.ofKernel word,
        linkAddress := if ∃ b ∈ octets, b ≠ 0 then octets else [] } := by
  -- Each attribute is read on the host that the reading before has left.
  have hkeeps := keptByReaders_keepsLines.readInt32 (some (Link.attributePath name "mtu")) 0 10 h
  have hkeeps' := keptByReaders_keepsLines.readInt32 (some (Link.attributePath name "flags")) 0 16
    (h.readInt32 (some (Link.attributePath name "mtu")) 0 10).2
  have hflags := (hattributes.of_keepsLines hkeeps).fst_flags hname
  have haddress :=
    ((hattributes.of_keepsLines hkeeps).of_keepsLines hkeeps').fst_address hname hoctets
  simp only [describeLink, hattributes.fst_mtu hname hmtu, hflags, haddress, toUInt32_ofInt,
    (Hex.isWord_withColons octets).untilNul_eq, LinkAddress.parse_withColons]

/-- Each link is described on a host that shows the same lines. -/
theorem getElem?_describeLinks {names : List (Nat × Text)} {i index : Nat} {name : Text}
    (hname : names[i]? = some (index, name)) (h : Host) :
    ∃ h', h.KeepsLines h' ∧
      (h.describeLinks names).1[i]? = some (h'.describeLink index name).1 := by
  induction names generalizing i h with
  | nil => simp at hname
  | cons first others ih =>
    cases i with
    | zero =>
      obtain rfl : first = (index, name) := Option.some.inj hname
      refine ⟨h, keptByReaders_keepsLines.refl h, ?_⟩
      rw [describeLinks, List.getElem?_cons_zero]
    | succ i =>
      -- The links before this one have been read by then.
      have hfirst := keptByReaders_keepsLines.describeLink first.1 first.2 h
      rw [List.getElem?_cons_succ] at hname
      obtain ⟨h', hkeeps, hlink⟩ := ih hname (h.describeLink first.1 first.2).2
      refine ⟨h', keptByReaders_keepsLines.trans hfirst hkeeps, ?_⟩
      rw [describeLinks, List.getElem?_cons_succ, hlink]

/-- What the list of links says of a link with attributes in the form of the kernel. -/
theorem listLinks_attributes {h : Host} {links : List (Nat × Text)} (hlinks : h.links = .ok links)
    {i index : Nat} {name : Text} (hlisted : (links.takeWhile (·.1 != 0))[i]? = some (index, name))
    (hname : name.length ≤ 200) {mtu : Nat} (hmtu : mtu < 2 ^ 31) {word : UInt32}
    {octets : List UInt8} (hoctets : octets.length ≤ 42)
    (hattributes : Link.Attributes name mtu word octets h) :
    ∃ described link, h.listLinks.1 = .ok described ∧ described[i]? = some link ∧
      link.index = index ∧ link.name = name ∧ link.mtu.toInt = mtu ∧
      link.flags = Flags.ofKernel word ∧
      link.linkAddress = if ∃ b ∈ octets, b ≠ 0 then octets else [] := by
  obtain ⟨h', hkeeps, hlink⟩ := getElem?_describeLinks hlisted h
  rw [describeLink_of_attributes (hattributes.of_keepsLines hkeeps) hname hmtu hoctets] at hlink
  refine ⟨_, _, ?_, hlink, rfl, rfl, ?_, rfl, rfl⟩
  · simp only [listLinks, hlinks]
  · exact Int32.toInt_ofInt_of_le (by omega) (by omega)

/-- A file that holds a line and hands it out in pieces. -/
def inPieces (line : Text) : File where
  content := line ++ Text.ofString "\n"
  reads := [.atMost 2, .atMost 1]
  readLimit := 3

/-- Two links, of which the second has its files and the highest flag. -/
def highestFlag : Host where
  links := .ok [(1, Text.ofString "lo"), (7, Text.ofString "eth0"), (0, [])]
  files :=
    [(Text.ofString "/sys/class/net/eth0/mtu", inPieces (Text.ofString "9000")),
      (Text.ofString "/sys/class/net/eth0/flags", inPieces (Text.ofString "0x80001003")),
      (Text.ofString "/sys/class/net/eth0/address", inPieces (Text.ofString "00:1a:2b"))]

theorem listLinks_attributes_highestFlag :
    (Text.ofString "eth0").length ≤ 200 ∧
      Link.Attributes (Text.ofString "eth0") 9000 0x80001003 [0x00, 0x1a, 0x2b] highestFlag ∧
      ∃ described link, highestFlag.listLinks.1 = .ok described ∧ described[1]? = some link ∧
        link.index = 7 ∧ link.mtu.toInt = 9000 ∧ link.flags = Flags.ofKernel 0x80001003 ∧
        link.linkAddress = [0x00, 0x1a, 0x2b] := by
  have hname : (Text.ofString "eth0").length ≤ 200 := by decide
  have hattributes : Link.Attributes (Text.ofString "eth0") 9000 0x80001003 [0x00, 0x1a, 0x2b]
      highestFlag := by
    refine ⟨⟨_, ⟨rfl, rfl, ?_⟩, rfl⟩, ⟨_, ⟨rfl, rfl, ?_⟩, rfl⟩, ⟨_, ⟨rfl, rfl, ?_⟩, rfl⟩⟩
    all_goals decide
  obtain ⟨described, link, hlist, hlink, hindex, -, hmtu, hflags, haddress⟩ :=
    listLinks_attributes (h := highestFlag) (i := 1) rfl rfl hname (by decide) (by decide)
      hattributes
  exact ⟨hname, hattributes, described, link, hlist, hlink, hindex, hmtu, hflags, haddress⟩

end Host

end LocalNet
