import ObjectAccess.Proofs.Naming.Extension
import ObjectAccess.Proofs.Naming.ObjectKey
import ObjectAccess.Proofs.Text.Utf8
import ObjectAccess.Proofs.Time.Stamp

/-!
# The size of keys that are made

The key made for an upload holds the day, an id and the extension of a file name, and the key made
for a copy holds the time and the key of the source.  Neither is empty.  Their sizes grow with the
text that they take over (`utf8ByteSize_uploadKey`, `utf8ByteSize_copyKey`), so an extension or a
source can be too long for the key to pass its check.

The rest of a key has one octet for each character, and few of them: a clock shows years of at
most six digits (`length_datePath_le`).
-/

namespace ObjectAccess

set_option autoImplicit false

/-! ## Days -/

namespace Time

open ObjectAccess.Text

theorem yearText_ne_nil (year : Int) : yearText year ≠ [] := by
  unfold yearText
  split
  · exact Decimal.padded_ne_nil _ _
  · exact List.cons_ne_nil _ _

/-- A year is written with digits, a minus and a plus. -/
theorem mem_yearText {year : Int} {c : Char} (h : c ∈ yearText year) :
    c.isDigit = true ∨ c = '-' ∨ c = '+' := by
  by_cases hrange : 0 ≤ year ∧ year ≤ 9999
  · rw [yearText, if_pos hrange] at h
    exact Or.inl (Decimal.isDigit_of_mem_padded h)
  · obtain ⟨sign, hsign, htext⟩ := yearText_of_not hrange
    rw [htext] at h
    rcases List.mem_cons.mp h with rfl | h
    · exact Or.inr hsign
    · exact Or.inl (Decimal.isDigit_of_mem_padded h)

/-- The year of a clock reading has at most six digits. -/
theorem natAbs_year_lt (t : Instant) : t.date.year.natAbs < 1000000 := by
  obtain ⟨era, dayOfEra, hdays, hlt⟩ := exists_era (t.seconds / secondsPerDay)
  have hlow := t.min_le
  have hhigh := t.le_max
  have hyear : era * 400 ≤ t.date.year ∧ t.date.year ≤ era * 400 + 400 := by
    have hofEra : yearOfEra dayOfEra < 400 := (era_bounds hlt).1
    rw [Instant.date, ofDays_eq hdays hlt]
    simp only
    split <;> omega
  simp only [minSeconds, maxSeconds, secondsPerDay] at *
  omega

theorem length_yearText_le (t : Instant) : (yearText t.date.year).length ≤ 7 := by
  have hlength {n : Nat} (h : n < 1000000) : (Decimal.padded 4 n).length ≤ 6 := by
    have hdigits : (Decimal.digits n).length ≤ 6 :=
      (Nat.length_toDigits_le_iff (by decide) (by decide)).mpr h
    rw [Decimal.padded, List.length_append, List.length_replicate]
    omega
  have hyear := natAbs_year_lt t
  by_cases hrange : 0 ≤ t.date.year ∧ t.date.year ≤ 9999
  · have hle : (Decimal.padded 4 t.date.year.toNat).length ≤ 6 := hlength (by omega)
    rw [yearText, if_pos hrange]
    omega
  · obtain ⟨sign, -, htext⟩ := yearText_of_not hrange
    rw [htext, List.length_cons]
    exact Nat.succ_le_succ (hlength hyear)

/-- Whether a text is a date as a path: four digits for the year and two each for the month and the
day, with slashes between them. -/
def Date.IsPath (d : Date) (text : List Char) : Prop :=
  ∃ year month day, text = year ++ '/' :: (month ++ '/' :: day) ∧
    Decimal.IsFixed 4 d.year.toNat year ∧ Decimal.IsFixed 2 d.month month ∧
    Decimal.IsFixed 2 d.day day

theorem Date.IsPath.count_slash {d : Date} {text : List Char} (h : d.IsPath text) :
    text.count '/' = 2 := by
  obtain ⟨year, month, day, rfl, hyear, hmonth, hday⟩ := h
  have hnone {width n : Nat} {number : List Char} (hnumber : Decimal.IsFixed width n number) :
      number.count '/' = 0 :=
    List.count_eq_zero_of_not_mem fun hslash => absurd (hnumber.digits _ hslash) (by decide)
  rw [List.count_append, List.count_cons_self, List.count_append, List.count_cons_self,
    hnone hyear, hnone hmonth, hnone hday]

namespace Instant

variable (t : Instant)

theorem month_lt_and_day_lt : t.date.month < 100 ∧ t.date.day < 100 := by
  have hdate : t.date.exists = true := exists_ofDays _
  simp only [Date.exists, Bool.and_eq_true, decide_eq_true_eq] at hdate
  have hday := daysInMonth_le t.date.year t.date.month
  omega

/-- After the year, a day has two numbers of two digits. -/
theorem length_datePath : t.datePath.length = (yearText t.date.year).length + 6 := by
  obtain ⟨hmonth, hday⟩ := t.month_lt_and_day_lt
  rw [datePath, twoDigits, twoDigits, List.length_append, List.length_cons, List.length_append,
    List.length_cons, Decimal.length_padded (by decide) hmonth,
    Decimal.length_padded (by decide) hday]

/-- A day as a path is its date, in a year of four digits. -/
theorem isPath_datePath (hlow : 0 ≤ t.date.year) (hhigh : t.date.year ≤ 9999) :
    t.date.IsPath t.datePath := by
  obtain ⟨hmonth, hday⟩ := t.month_lt_and_day_lt
  refine ⟨_, _, _, ?_, Decimal.isFixed_padded (by decide) (by omega),
    Decimal.isFixed_padded (by decide) hmonth, Decimal.isFixed_padded (by decide) hday⟩
  rw [datePath, yearText, if_pos ⟨hlow, hhigh⟩]
  rfl

theorem length_datePath_le : t.datePath.length ≤ 13 := by
  rw [t.length_datePath]
  exact Nat.add_le_add_right (length_yearText_le t) 6

/-- In a year of four digits a day takes ten characters. -/
theorem length_datePath_of_fourDigits (hlow : 0 ≤ t.date.year) (hhigh : t.date.year ≤ 9999) :
    t.datePath.length = 10 := by
  rw [t.length_datePath, yearText, if_pos ⟨hlow, hhigh⟩,
    Decimal.length_padded (by decide) (by omega)]

theorem ascii_datePath {c : Char} (h : c ∈ t.datePath) : c.val.toNat < 0x80 := by
  simp only [datePath, twoDigits, List.mem_append, List.mem_cons] at h
  rcases h with hyear | rfl | hmonth | rfl | hday
  · rcases mem_yearText hyear with hdigit | rfl | rfl
    · exact Decimal.ascii_of_isDigit hdigit
    · decide
    · decide
  · decide
  · exact Decimal.ascii_of_isDigit (Decimal.isDigit_of_mem_padded hmonth)
  · decide
  · exact Decimal.ascii_of_isDigit (Decimal.isDigit_of_mem_padded hday)

/-- A day does not start with a slash. -/
theorem head?_datePath_ne_slash (rest : List Char) : (t.datePath ++ rest).head? ≠ some '/' := by
  obtain ⟨c, others, hyear⟩ := List.exists_cons_of_ne_nil (yearText_ne_nil t.date.year)
  rw [datePath, hyear]
  intro hslash
  obtain rfl : c = '/' := Option.some.inj hslash
  rcases mem_yearText (hyear ▸ List.mem_cons_self ..) with hdigit | heq | heq
  · exact absurd hdigit (by decide)
  · exact absurd heq (by decide)
  · exact absurd heq (by decide)

end Instant

end Time

/-! ## Keys -/

namespace Naming

open ObjectAccess.Text ObjectAccess.Time

/-- Whether a text is an id: 32 hexadecimal digits. -/
def IsId (id : String) : Prop :=
  id.toList.length = 32 ∧ id.toList.all (fun c => c.isDigit || ('a' ≤ c && c ≤ 'f')) = true

instance (id : String) : Decidable (IsId id) :=
  inferInstanceAs (Decidable (_ ∧ _))

theorem IsId.ascii {id : String} (h : IsId id) : ∀ c ∈ id.toList, c.val.toNat < 0x80 := by
  intro c hc
  have hhex := List.all_eq_true.mp h.2 c hc
  rw [Bool.or_eq_true, Bool.and_eq_true, decide_eq_true_eq, decide_eq_true_eq] at hhex
  rcases hhex with hdigit | ⟨-, hletter⟩
  · exact Decimal.ascii_of_isDigit hdigit
  · exact Nat.lt_of_le_of_lt (UInt32.le_iff_toNat_le.mp hletter) (by decide)

theorem IsId.slash_not_mem {id : String} (h : IsId id) : '/' ∉ id.toList := fun hslash =>
  absurd (List.all_eq_true.mp h.2 '/' hslash) (by decide)

theorem IsId.toList_ne_nil {id : String} (h : IsId id) : id.toList ≠ [] :=
  List.ne_nil_of_length_eq_add_one h.1

variable {fileName id : String} {ext : List Char}

/-- The base name of a key made for an upload: the id, and the extension of the file. -/
def uploadBase (fileName id : String) : List Char :=
  id.toList ++
    match extension? fileName.toList with
    | some ext => '.' :: ext
    | none => []

theorem toList_uploadKey (fileName id : String) (now : Instant) :
    (uploadKey fileName id now).toList = now.datePath ++ '/' :: uploadBase fileName id :=
  String.toList_ofList

theorem slash_not_mem_uploadBase (hslash : '/' ∉ id.toList) (fileName : String) :
    '/' ∉ uploadBase fileName id := by
  rw [uploadBase, List.mem_append, not_or]
  refine ⟨hslash, ?_⟩
  cases hext : extension? fileName.toList with
  | some ext => simpa using (extension?_eq_some_iff.mp hext).slash_not_mem
  | none => exact List.not_mem_nil

theorem isBaseName_uploadKey (hslash : '/' ∉ id.toList) (fileName : String) (now : Instant) :
    IsBaseName (uploadKey fileName id now).toList (uploadBase fileName id) :=
  ⟨slash_not_mem_uploadBase hslash fileName, Or.inr ⟨_, toList_uploadKey fileName id now⟩⟩

/-- The key made for an upload has the extension of the file. -/
theorem extension?_uploadKey (hne : id.toList ≠ []) (hslash : '/' ∉ id.toList)
    (hdot : '.' ∉ id.toList) (fileName : String) (now : Instant) :
    extension? (uploadKey fileName id now).toList = extension? fileName.toList := by
  have hbase := isBaseName_uploadKey hslash fileName now
  unfold uploadBase at hbase
  cases hext : extension? fileName.toList with
  | some ext =>
      obtain ⟨-, -, hfull, hclean, -⟩ := extension?_eq_some_iff.mp hext
      rw [hext] at hbase
      exact extension?_eq_some_iff.mpr ⟨id.toList, hne, hfull, hclean, hbase⟩
  | none =>
      rw [hext] at hbase
      exact extension?_eq_none hbase (by simpa using hdot)

/-- The key made for an upload has no slashes at its ends. -/
theorem isNormalised_uploadKey (hne : id.toList ≠ []) (hslash : '/' ∉ id.toList)
    (fileName : String) (now : Instant) : IsNormalised (uploadKey fileName id now) := by
  have hbase : uploadBase fileName id ≠ [] := fun hnil => hne (List.append_eq_nil_iff.mp hnil).1
  rw [IsNormalised, toList_uploadKey]
  refine ⟨now.head?_datePath_ne_slash _, ?_⟩
  rw [List.getLast?_append, List.getLast?_cons, List.getLast?_eq_getLast_of_ne_nil hbase]
  intro hlast
  exact slash_not_mem_uploadBase hslash fileName (Option.some.inj hlast ▸ List.getLast_mem hbase)

/-- The octets of a key made for an upload: the day, a slash, the id, and the extension with a
dot. -/
theorem utf8ByteSize_uploadKey (hid : IsId id) (fileName : String) (now : Instant) :
    (uploadKey fileName id now).utf8ByteSize =
      now.datePath.length + 33 +
        match extension? fileName.toList with
        | some ext => 1 + (octets ext).length
        | none => 0 := by
  -- What stands before the extension is ASCII, whatever the file is called.
  have hascii : ∀ c ∈ now.datePath ++ '/' :: id.toList, c.val.toNat < 0x80 := by
    intro c hc
    rcases List.mem_append.mp hc with hday | hrest
    · exact now.ascii_datePath hday
    · rcases List.mem_cons.mp hrest with rfl | hhex
      · decide
      · exact hid.ascii c hhex
  rw [uploadKey, utf8ByteSize_ofList, ← List.cons_append, ← List.append_assoc,
    length_octets_append_of_ascii hascii, List.length_append, List.length_cons, hid.1]
  congr 1
  cases extension? fileName.toList with
  | some ext =>
      have hdot : ∀ c ∈ ['.'], c.val.toNat < 0x80 := List.forall_mem_singleton.mpr (by decide)
      exact length_octets_append_of_ascii hdot ext
  | none => rfl

/-- An upload has a key that passes just if its extension, if it has one, leaves room for the day
and the id. -/
theorem utf8ByteSize_uploadKey_le_iff (hid : IsId id) (fileName : String) (now : Instant) :
    (uploadKey fileName id now).utf8ByteSize ≤ maxKeyOctets ↔
      ∀ ext, extension? fileName.toList = some ext →
        now.datePath.length + (octets ext).length ≤ 990 := by
  have hday := now.length_datePath_le
  rw [utf8ByteSize_uploadKey hid, maxKeyOctets]
  cases extension? fileName.toList with
  | some ext =>
      simp only [Option.some.injEq, forall_eq']
      omega
  | none =>
      simp only [reduceCtorEq, false_implies, implies_true, iff_true]
      omega

/-- The octets of a key made for a copy: the time between two underscores after `copy`, and the
source. -/
theorem utf8ByteSize_copyKey (source : String) (now : Instant) :
    (copyKey source now).utf8ByteSize =
      6 + (Decimal.ofInt now.seconds).length + source.utf8ByteSize := by
  have htime : ∀ c ∈ Decimal.ofInt now.seconds, c.val.toNat < 0x80 := by
    intro c hc
    unfold Decimal.ofInt at hc
    split at hc
    · rcases List.mem_cons.mp hc with rfl | hc
      · decide
      · exact Decimal.ascii_of_isDigit (Decimal.isDigit_of_mem_digits hc)
    · exact Decimal.ascii_of_isDigit (Decimal.isDigit_of_mem_digits hc)
  have hcopy (rest : List Char) :
      (octets ("copy_".toList ++ rest)).length = 5 + (octets rest).length := by
    have hascii : ("copy_".toList.all fun c => c.val.toNat < 0x80) = true := by decide
    exact length_octets_append_of_ascii
      (fun c hc => of_decide_eq_true (List.all_eq_true.mp hascii c hc)) rest
  have hrest : (octets ('_' :: source.toList)).length = 1 + (octets source.toList).length :=
    length_octets_append_of_ascii (List.forall_mem_singleton.mpr (by decide)) source.toList
  unfold copyKey
  rw [utf8ByteSize_ofList, List.append_assoc, hcopy, length_octets_append_of_ascii htime, hrest,
    length_octets_toList]
  omega

theorem isNormalised_replicate (n : Nat) {c : Char} (h : c ≠ '/') :
    IsNormalised (String.ofList (List.replicate n c)) := by
  rw [IsNormalised, String.toList_ofList, List.head?_replicate, List.getLast?_replicate, and_self]
  split
  · exact (Option.some_ne_none _).symm
  · exact fun hc => h (Option.some.inj hc)

theorem extension?_replicate {n : Nat} (hn : n ≠ 0) :
    extension? (String.ofList ('a' :: '.' :: List.replicate n 'x')).toList =
      some (List.replicate n 'x') := by
  have hne : List.replicate n 'x' ≠ [] := by
    rwa [ne_eq, List.replicate_eq_nil_iff]
  have hmem {c : Char} (hc : c ≠ 'x') : c ∉ List.replicate n 'x' := fun h =>
    hc (List.eq_of_mem_replicate h)
  rw [String.toList_ofList]
  refine extension?_eq_some_iff.mpr ⟨['a'], List.cons_ne_nil 'a' [], hne, hmem (by decide), ?_⟩
  exact ⟨by simp [hmem], Or.inl rfl⟩

/-- A key that is not empty passes or is too long. -/
theorem checkObjectKey_of_pos {key : String} (h : 0 < key.utf8ByteSize) :
    checkObjectKey key =
      if key.utf8ByteSize ≤ maxKeyOctets then .ok ()
      else .error (.invalidRequest "Your key is too long") := by
  have hne : key ≠ "" := by
    rintro rfl
    exact Nat.lt_irrefl 0 h
  rw [checkObjectKey, if_neg hne]
  by_cases hle : key.utf8ByteSize ≤ maxKeyOctets
  · rw [if_neg (Nat.not_lt.mpr hle), if_pos hle]
  · rw [if_pos (Nat.lt_of_not_le hle), if_neg hle]

end Naming

end ObjectAccess
