import ObjectAccess.Naming.BucketName
import ObjectAccess.Proofs.Text.Decimal
import ObjectAccess.Proofs.Text.Lossy
import ObjectAccess.Proofs.Text.Pieces

/-!
# The form of bucket names

A bucket name is checked by one rule after the other, and what they accept together is one form
(`IsBucketName`), which does not depend on the order of the rules.  It speaks of characters, while
the check counts octets: a name that has the size in octets and not in characters has a character
of several octets, and such a character is in no bucket name.  An address is four numbers up to 255
as they are written, so digits with a zero in front are no part of one (`isAddress_iff`).

The first and the last octet may be read without looking whether they are there.  A name without
octets is refused before that, so no read fails (`octetFlaw?_eq`), and where they are read they are
the first and the last character.
-/

namespace ObjectAccess.Naming

set_option autoImplicit false

open ObjectAccess.Text

/-! ## Addresses -/

/-- Four numbers up to 255 with dots between them. -/
def IsAddress (text : List Char) : Prop :=
  ∃ numbers : List Nat, numbers.length = 4 ∧ (∀ n ∈ numbers, n ≤ 255) ∧
    text = join '.' (numbers.map Decimal.digits)

/-- The parts of an address are the numbers up to 255 as they are written. -/
theorem isAddressPart_iff {text : List Char} :
    isAddressPart text = true ↔
      Decimal.value text ≤ 255 ∧ Decimal.digits (Decimal.value text) = text := by
  simp only [isAddressPart, Bool.and_eq_true, Bool.or_eq_true, decide_eq_true_eq,
    List.all_eq_true]
  constructor
  · rintro ⟨⟨⟨⟨hne, -⟩, hdigits⟩, hlead⟩, hvalue⟩
    refine ⟨hvalue, ?_⟩
    rcases hlead with hone | hlead
    · obtain ⟨c, rfl⟩ := List.length_eq_one_iff.mp hone
      have hself : Decimal.value [c] = Decimal.digitValue c := Nat.zero_add _
      rw [hself, Decimal.digits_digitValue (hdigits c (List.mem_singleton_self c))]
    · exact Decimal.digits_value hne hdigits hlead
  · rintro ⟨hvalue, hself⟩
    have hlength : (Decimal.digits (Decimal.value text)).length ≤ 3 :=
      (Nat.length_toDigits_le_iff (by decide) (by decide)).mpr (by omega)
    refine ⟨⟨⟨⟨?_, ?_⟩, ?_⟩, ?_⟩, hvalue⟩
    · rw [← hself]
      exact Decimal.digits_ne_nil _
    · rwa [hself] at hlength
    · intro c hc
      rw [← hself] at hc
      exact Decimal.isDigit_of_mem_digits hc
    · -- Only zero starts with a zero, and it has one digit.
      by_cases hzero : Decimal.value text = 0
      · rw [hzero] at hself
        exact Or.inl (hself ▸ rfl)
      · rw [← hself]
        exact Or.inr (Decimal.head?_digits_ne_zero hzero)

theorem isAddress_iff {text : List Char} : isAddress text = true ↔ IsAddress text := by
  rw [isAddress, Bool.and_eq_true, decide_eq_true_eq, List.all_eq_true]
  constructor
  · rintro ⟨hlength, hparts⟩
    have hparts' := fun p hp => isAddressPart_iff.mp (hparts p hp)
    refine ⟨(pieces '.' text).map Decimal.value, ?_, ?_, ?_⟩
    · rwa [List.length_map]
    · intro n hn
      obtain ⟨p, hp, rfl⟩ := List.mem_map.mp hn
      exact (hparts' p hp).1
    · have hself : ((pieces '.' text).map Decimal.value).map Decimal.digits = pieces '.' text := by
        rw [List.map_map]
        exact (List.map_congr_left fun p hp => (hparts' p hp).2).trans (List.map_id _)
      rw [hself, join_pieces]
  · rintro ⟨numbers, hlength, hbound, rfl⟩
    have hne : numbers.map Decimal.digits ≠ [] := by
      intro hnil
      rw [List.map_eq_nil_iff.mp hnil] at hlength
      cases hlength
    have hclean : ∀ p ∈ numbers.map Decimal.digits, '.' ∉ p := by
      intro p hp hdot
      obtain ⟨n, -, rfl⟩ := List.mem_map.mp hp
      exact absurd (Decimal.isDigit_of_mem_digits hdot) (by decide)
    rw [pieces_join hne hclean, List.length_map]
    refine ⟨hlength, fun p hp => ?_⟩
    obtain ⟨n, hn, rfl⟩ := List.mem_map.mp hp
    rw [isAddressPart_iff, Decimal.value_digits]
    exact ⟨hbound n hn, rfl⟩

/-! ## Octets -/

/-- A lower-case ASCII letter or a digit, as an octet. -/
def isLetterOrDigitOctet (b : UInt8) : Bool := (97 ≤ b && b ≤ 122) || (48 ≤ b && b ≤ 57)

/-- An octet that may stand in a bucket name. -/
def isBucketOctet (b : UInt8) : Bool := isLetterOrDigitOctet b || b = 45 || b = 46

/-- The octet of a character of ASCII. -/
def asciiOctet (c : Char) : UInt8 := UInt8.ofNat c.val.toNat

theorem ascii_of_isBucketChar {c : Char} (h : isBucketChar c = true) : c.val.toNat < 0x80 := by
  simp only [isBucketChar, isLetterOrDigit, Char.isLower, Bool.or_eq_true, Bool.and_eq_true,
    decide_eq_true_eq, UInt32.le_iff_toNat_le] at h
  rcases h with ((⟨-, hletter⟩ | hdigit) | rfl) | rfl
  · exact Nat.lt_of_le_of_lt hletter (by decide)
  · exact Decimal.ascii_of_isDigit hdigit
  · decide
  · decide

/-- A character of ASCII and its octet pass the same tests. -/
theorem test_asciiOctet {p : UInt8 → Bool} {q : Char → Bool}
    (h : ∀ n < 0x80, p (UInt8.ofNat n) = q (Char.ofNat n)) {c : Char} (hc : c.val.toNat < 0x80) :
    p (asciiOctet c) = q c := by
  rw [asciiOctet, h _ hc]
  exact congrArg q (Char.ofNat_toNat c)

theorem isLetterOrDigitOctet_asciiOctet {c : Char} (hc : c.val.toNat < 0x80) :
    isLetterOrDigitOctet (asciiOctet c) = isLetterOrDigit c :=
  test_asciiOctet (by decide) hc

/-- The octets of a character may stand in a bucket name just if the character may. -/
theorem all_isBucketOctet (c : Char) :
    (String.utf8EncodeChar c).all isBucketOctet = isBucketChar c := by
  by_cases hc : c.val.toNat < 0x80
  · rw [utf8EncodeChar_ascii hc, List.all_cons, List.all_nil, Bool.and_true]
    exact test_asciiOctet (by decide) hc
  · -- All octets of the character are too large, and it has at least one.
    obtain ⟨b, others, hoctets, hb⟩ := exists_utf8EncodeChar_of_le (Nat.le_of_not_lt hc)
    have hoctet : isBucketOctet b = false := by
      simp only [isBucketOctet, isLetterOrDigitOctet, Bool.or_eq_false_iff, Bool.and_eq_false_iff,
        decide_eq_false_iff_not, UInt8.le_iff_toNat_le, ← UInt8.toNat_inj, UInt8.reduceToNat]
      omega
    have hchar : isBucketChar c = false :=
      Bool.eq_false_iff.mpr fun h => hc (ascii_of_isBucketChar h)
    rw [hoctets, List.all_cons, hoctet, hchar, Bool.false_and]

theorem all_octets (text : List Char) :
    (octets text).all isBucketOctet = text.all isBucketChar := by
  induction text with
  | nil => rfl
  | cons c rest ih => rw [octets_cons, List.all_append, List.all_cons, all_isBucketOctet, ih]

theorem octets_of_ascii {text : List Char} (h : ∀ c ∈ text, c.val.toNat < 0x80) :
    octets text = text.map asciiOctet := by
  induction text with
  | nil => rfl
  | cons c rest ih =>
      obtain ⟨hc, hrest⟩ := List.forall_mem_cons.mp h
      rw [octets_cons, utf8EncodeChar_ascii hc, ih hrest]
      rfl

/-! ## The form -/

/-- Whether a character is a lower-case letter or a digit. -/
def IsLetterOrDigit (c : Char) : Prop := ('a' ≤ c ∧ c ≤ 'z') ∨ ('0' ≤ c ∧ c ≤ '9')

theorem isLetterOrDigit_iff {c : Char} : isLetterOrDigit c = true ↔ IsLetterOrDigit c := by
  simp only [isLetterOrDigit, Char.isLower, Char.isDigit, Bool.or_eq_true, Bool.and_eq_true,
    decide_eq_true_eq]
  exact Iff.rfl

/-- The form of bucket names. -/
structure IsBucketName (name : String) : Prop where
  length : 3 ≤ name.toList.length ∧ name.toList.length ≤ 63
  characters : ∀ c ∈ name.toList, IsLetterOrDigit c ∨ c = '-' ∨ c = '.'
  first : ∃ c, name.toList.head? = some c ∧ IsLetterOrDigit c
  last : ∃ c, name.toList.getLast? = some c ∧ IsLetterOrDigit c
  noAdjacentDots : ¬"..".toList <:+: name.toList
  noAddress : ¬IsAddress name.toList
  notReservedStart : ¬"xn--".toList <+: name.toList ∧ ¬"sthree-".toList <+: name.toList
  notReservedEnd : ¬"-s3alias".toList <:+ name.toList

/-- The rules of a bucket name after those about its single characters. -/
def wholeNameFlaw? (text : List Char) : Option BucketNameFlaw :=
  if occursIn ['.', '.'] text then some .consecutiveDots
  else if isAddress text then some .address
  else if "xn--".toList.isPrefixOf text ∨ "sthree-".toList.isPrefixOf text then some .reservedStart
  else if "-s3alias".toList.isSuffixOf text then some .reservedEnd
  else none

variable {name : String} {text : List Char}

theorem bucketNameFlaw?_eq (name : String) :
    bucketNameFlaw? name =
      if name.utf8ByteSize < 3 ∨ 63 < name.utf8ByteSize then some .length
      else if name.toList.all isBucketChar = false then some .character
      else if name.toList.head?.any isLetterOrDigit = false ∨
          name.toList.getLast?.any isLetterOrDigit = false then some .ends
      else wholeNameFlaw? name.toList := rfl

/-- A rule and the ones after it are kept just if each of them is. -/
theorem ite_some_eq_none {α : Type} {p : Prop} [Decidable p] {flaw : α} {later : Option α} :
    (if p then some flaw else later) = none ↔ ¬p ∧ later = none := by
  by_cases h : p <;> simp [h]

theorem wholeNameFlaw?_eq_none_iff :
    wholeNameFlaw? text = none ↔
      ¬"..".toList <:+: text ∧ ¬IsAddress text ∧
        (¬"xn--".toList <+: text ∧ ¬"sthree-".toList <+: text) ∧ ¬"-s3alias".toList <:+ text := by
  rw [wholeNameFlaw?, ite_some_eq_none, ite_some_eq_none, ite_some_eq_none, ite_some_eq_none,
    occursIn_iff, isAddress_iff, List.isPrefixOf_iff_prefix, List.isPrefixOf_iff_prefix,
    List.isSuffixOf_iff_suffix, not_or]
  simp only [and_true]
  exact Iff.rfl

theorem forall_isBucketChar_iff :
    ¬text.all isBucketChar = false ↔ ∀ c ∈ text, IsLetterOrDigit c ∨ c = '-' ∨ c = '.' := by
  simp only [Bool.not_eq_false, List.all_eq_true, isBucketChar, Bool.or_eq_true,
    decide_eq_true_eq, isLetterOrDigit_iff, or_assoc]

theorem ends_iff :
    ¬(text.head?.any isLetterOrDigit = false ∨ text.getLast?.any isLetterOrDigit = false) ↔
      (∃ c, text.head? = some c ∧ IsLetterOrDigit c) ∧
        ∃ c, text.getLast? = some c ∧ IsLetterOrDigit c := by
  simp only [not_or, Bool.not_eq_false, Option.any_eq_true, isLetterOrDigit_iff]

/-- Of a name with the characters of bucket names, the octets are as many as the characters. -/
theorem utf8ByteSize_of_isBucketChar (h : name.toList.all isBucketChar = true) :
    name.utf8ByteSize = name.toList.length := by
  have hascii : ∀ c ∈ name.toList, c.val.toNat < 0x80 := fun c hc =>
    ascii_of_isBucketChar (List.all_eq_true.mp h c hc)
  rw [← length_octets_toList, octets_of_ascii hascii, List.length_map]

/-- A name breaks no rule just if it has the form. -/
theorem bucketNameFlaw?_eq_none_iff : bucketNameFlaw? name = none ↔ IsBucketName name := by
  rw [bucketNameFlaw?_eq, ite_some_eq_none, ite_some_eq_none, ite_some_eq_none, ends_iff,
    wholeNameFlaw?_eq_none_iff]
  constructor
  · rintro ⟨hsize, hchars, ⟨hfirst, hlast⟩, hdots, haddress, hstart, hend⟩
    rw [utf8ByteSize_of_isBucketChar (Bool.not_eq_false _ ▸ hchars)] at hsize
    exact ⟨by omega, forall_isBucketChar_iff.mp hchars, hfirst, hlast, hdots, haddress, hstart,
      hend⟩
  · rintro ⟨hlength, hchars, hfirst, hlast, hdots, haddress, hstart, hend⟩
    have hall := forall_isBucketChar_iff.mpr hchars
    rw [utf8ByteSize_of_isBucketChar (Bool.not_eq_false _ ▸ hall)]
    exact ⟨by omega, hall, ⟨hfirst, hlast⟩, hdots, haddress, hstart, hend⟩

instance (name : String) : Decidable (IsBucketName name) :=
  decidable_of_iff _ bucketNameFlaw?_eq_none_iff

/-- The names that are accepted are those of the form. -/
theorem checkBucketName_eq_ok_iff : checkBucketName name = .ok () ↔ IsBucketName name := by
  rw [← bucketNameFlaw?_eq_none_iff, checkBucketName]
  cases bucketNameFlaw? name with
  | none => exact iff_of_true rfl rfl
  | some flaw => exact iff_of_false nofun nofun

/-! ## Reading the ends -/

/-- The first rule that a name breaks, told from its octets.  The first and the last one are read
without looking whether they are there, and nothing is answered if one is not. -/
def octetFlaw? (name : String) : Option (Option BucketNameFlaw) :=
  let bytes := octets name.toList
  if bytes.length < 3 ∨ 63 < bytes.length then some (some .length)
  else if bytes.all isBucketOctet = false then some (some .character)
  else do
    let first ← bytes[0]?
    let last ← bytes[bytes.length - 1]?
    if isLetterOrDigitOctet first = false ∨ isLetterOrDigitOctet last = false then
      return some .ends
    else return wholeNameFlaw? name.toList

/-- The octets at the ends of a text of ASCII are those of its first and its last character. -/
theorem octets_ends {c d : Char} (hascii : ∀ e ∈ text, e.val.toNat < 0x80)
    (hfirst : text.head? = some c) (hlast : text.getLast? = some d) :
    (octets text)[0]? = some (asciiOctet c) ∧
      (octets text)[(octets text).length - 1]? = some (asciiOctet d) := by
  rw [octets_of_ascii hascii, ← List.head?_eq_getElem?, ← List.getLast?_eq_getElem?,
    List.head?_map, List.getLast?_map, hfirst, hlast]
  exact ⟨rfl, rfl⟩

/-- Octets and characters tell the same, and no octet is read that is not there. -/
theorem octetFlaw?_eq (name : String) : octetFlaw? name = some (bucketNameFlaw? name) := by
  rw [bucketNameFlaw?_eq]
  simp only [octetFlaw?, length_octets_toList, all_octets]
  by_cases hsize : name.utf8ByteSize < 3 ∨ 63 < name.utf8ByteSize
  · rw [if_pos hsize, if_pos hsize]
  by_cases hchars : name.toList.all isBucketChar = false
  · rw [if_neg hsize, if_neg hsize, if_pos hchars, if_pos hchars]
  rw [if_neg hsize, if_neg hsize, if_neg hchars, if_neg hchars]
  -- Behind the first two rules a name has a first and a last character, both of ASCII.
  have hall : name.toList.all isBucketChar = true := Bool.not_eq_false _ ▸ hchars
  have hascii : ∀ e ∈ name.toList, e.val.toNat < 0x80 := fun e he =>
    ascii_of_isBucketChar (List.all_eq_true.mp hall e he)
  have hne : name.toList ≠ [] := by
    rw [utf8ByteSize_of_isBucketChar hall] at hsize
    exact List.ne_nil_of_length_pos (by omega)
  obtain ⟨c, hfirst⟩ : ∃ c, name.toList.head? = some c := ⟨_, List.head?_eq_some_head hne⟩
  obtain ⟨d, hlast⟩ : ∃ d, name.toList.getLast? = some d := ⟨_, List.getLast?_eq_some_getLast hne⟩
  obtain ⟨hreadFirst, hreadLast⟩ := octets_ends hascii hfirst hlast
  rw [length_octets_toList] at hreadLast
  have hc := isLetterOrDigitOctet_asciiOctet (hascii c (List.mem_of_mem_head? hfirst))
  have hd := isLetterOrDigitOctet_asciiOctet (hascii d (List.mem_of_mem_getLast? hlast))
  rw [hreadFirst, hreadLast, hfirst, hlast, Option.any_some, Option.any_some, ← hc, ← hd]
  exact (apply_ite some _ _ _).symm

/-- **A bucket name is accepted just if it has the form.**  Every other name is refused for the
first rule that it breaks.  The check comes to a result for every text, one without octets and one
with characters of several octets too. -/
theorem isBucketName_iff_accepted (name : String) :
    (checkBucketName name = .ok () ↔ IsBucketName name) ∧
    octetFlaw? name = some (bucketNameFlaw? name) ∧
    (¬IsBucketName name → ∃ flaw, bucketNameFlaw? name = some flaw ∧ checkBucketName name =
      .error (.ofKind .invalidBucketName
        ("Invalid bucket name: " ++ name ++ ": " ++ flaw.demand))) := by
  refine ⟨checkBucketName_eq_ok_iff, octetFlaw?_eq name, fun hflaw => ?_⟩
  rw [← bucketNameFlaw?_eq_none_iff] at hflaw
  obtain ⟨flaw, hsome⟩ := Option.ne_none_iff_exists'.mp hflaw
  rw [checkBucketName, hsome]
  exact ⟨flaw, rfl, rfl⟩

example : ¬IsBucketName "192.168.0.1" ∧ IsBucketName "192.168.0.01" := by decide

end ObjectAccess.Naming
