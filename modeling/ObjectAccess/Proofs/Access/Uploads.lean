import ObjectAccess.Proofs.Access.MadeKeys
import ObjectAccess.Proofs.Decoding

/-!
# The form of upload keys

The key of an upload is the day, the id and the extension of the file (`uploadKey_form`).  The
extension is cut out of the file name and found again in the key: there is no slash in it, so it is
in the base name of the key, and no dot, so the dot before it is the last one.  A key without an
extension has no dot at all.

The key has no slashes at its ends, so a client has nothing to trim before it stores an object
under it, whatever backend it works on (`Client.answer_upload`).
-/

namespace ObjectAccess

set_option autoImplicit false

open ObjectAccess.Naming ObjectAccess.Time

/-! ## Ids -/

/-- Hexadecimal digits hold no character that is none. -/
theorem Hex.not_mem_of_not_isDigit {id : String} (h : ∀ c ∈ id.toList, IsDigit c) {c : Char}
    (hc : ¬IsDigit c) : c ∉ id.toList := fun hmem => hc (h c hmem)

/-- An id has hexadecimal digits, the letters in lower case. -/
theorem Naming.IsId.isDigit {id : String} (h : IsId id) : ∀ c ∈ id.toList, Hex.IsDigit c := by
  intro c hc
  have hhex := List.all_eq_true.mp h.2 c hc
  rw [Bool.or_eq_true, Bool.and_eq_true, decide_eq_true_eq, decide_eq_true_eq] at hhex
  rcases hhex with hdigit | hletter
  · rw [Char.isDigit, Bool.and_eq_true, decide_eq_true_eq, decide_eq_true_eq] at hdigit
    exact Or.inl hdigit
  · exact Or.inr (Or.inr hletter)

/-! ## Keys -/

/-- The key of an upload has one slash after the day, which has two. -/
theorem Naming.count_slash_uploadKey {id : String} (hslash : '/' ∉ id.toList) {now : Instant}
    (hday : now.date.IsPath now.datePath) (fileName : String) :
    (uploadKey fileName id now).toList.count '/' = 3 := by
  rw [toList_uploadKey, List.count_append, hday.count_slash, List.count_cons_self,
    List.count_eq_zero_of_not_mem (slash_not_mem_uploadBase hslash fileName)]

namespace Client

/-- A client of any backend that stores an object answers the trimmed path. -/
theorem answer_put {σ : Type} [Backend σ] {c : Client} {now : Instant} {bucket : Option String}
    {path : String} {body : List UInt8} {s : Service σ} {answer : String}
    (h : ((c.put now bucket path body).start s).1 = .ok answer) : answer = trimSlashes path := by
  obtain ⟨name, -, hchecked⟩ := Task.exists_of_start_bind_eq_ok h
  obtain ⟨⟨⟩, -, hstored⟩ := Task.exists_of_start_bind_eq_ok hchecked
  obtain ⟨etag, -, hanswer⟩ := Task.exists_of_start_bind_eq_ok hstored
  exact (Except.ok.inj hanswer).symm

/-- A client of any backend that stores an upload answers the key that was made for it. -/
theorem answer_upload {σ : Type} [Backend σ] {c : Client} {made now : Instant}
    {bucket : Option String} {id fileName : String} {body : List UInt8} {s : Service σ}
    {answer : String} (hkey : IsNormalised (uploadKey fileName id made))
    (h : ((c.upload made now id bucket fileName body).start s).1 = .ok answer) :
    answer = uploadKey fileName id made :=
  (answer_put h).trans (trimSlashes_of_isNormalised hkey)

end Client

/-- **The key of an upload is the day, the id and the extension of the file.**  The day has four
digits for the year, as all years from 0 to 9999 have, and two each for the month and the day.  The
extension is the part after the last dot of the base name, with text on both sides of the dot, and
it is that of the key as well.  The key has three slashes and none at its ends, so it is not changed
by trimming, and a client that stores an object under it answers it as it is. -/
theorem uploadKey_form {id : String} (hlength : id.toList.length = 32)
    (hdigits : ∀ c ∈ id.toList, Hex.IsDigit c) {now : Instant} (hlow : 0 ≤ now.date.year)
    (hhigh : now.date.year ≤ 9999) (fileName : String) :
    let key := uploadKey fileName id now
    (∃ day tail, key.toList = day ++ '/' :: (id.toList ++ tail) ∧ now.date.IsPath day ∧
      (tail = [] ∧ extension? fileName.toList = none ∨
        ∃ ext, ext ≠ [] ∧ tail = '.' :: ext ∧ extension? fileName.toList = some ext)) ∧
    extension? key.toList = extension? fileName.toList ∧
    (∀ name ext, extension? name = some ext ↔ IsExtension name ext) ∧
    key.toList.count '/' = 3 ∧ trimSlashes key = key ∧
    ∀ (σ : Type) (_ : Backend σ) (c : Client) (later : Instant) (bucket : Option String)
      (body : List UInt8) (s : Service σ) (answer : String),
      ((c.upload now later id bucket fileName body).start s).1 = .ok answer → answer = key := by
  intro key
  have hne : id.toList ≠ [] := List.ne_nil_of_length_eq_add_one hlength
  have hslash : '/' ∉ id.toList := Hex.not_mem_of_not_isDigit hdigits (by decide)
  have hdot : '.' ∉ id.toList := Hex.not_mem_of_not_isDigit hdigits (by decide)
  have hday : now.date.IsPath now.datePath := now.isPath_datePath hlow hhigh
  have hkey : IsNormalised key := isNormalised_uploadKey hne hslash fileName now
  refine ⟨⟨now.datePath, _, toList_uploadKey fileName id now, hday, ?_⟩,
    extension?_uploadKey hne hslash hdot fileName now, fun _ _ => extension?_eq_some_iff,
    count_slash_uploadKey hslash hday fileName, trimSlashes_of_isNormalised hkey,
    fun _ _ _ _ _ _ _ _ hanswer => Client.answer_upload hkey hanswer⟩
  cases hext : extension? fileName.toList with
  | none => exact Or.inl ⟨rfl, rfl⟩
  | some ext =>
      obtain ⟨-, -, hfull, -⟩ := extension?_eq_some_iff.mp hext
      exact Or.inr ⟨ext, hfull, rfl, rfl⟩

/-- The theorem at an archive in a directory with a dot, which a client stores. -/
theorem uploadKey_form_archive :
    let c : Client := ⟨"main", .standard⟩
    let key := uploadKey "a.b/c.tar.gz" Client.exampleId .epoch
    Client.exampleId.toList.length = 32 ∧ (∀ d ∈ Client.exampleId.toList, Hex.IsDigit d) ∧
    0 ≤ (Instant.epoch).date.year ∧ (Instant.epoch).date.year ≤ 9999 ∧
    extension? key.toList = some "gz".toList ∧ key.toList.count '/' = 3 ∧ trimSlashes key = key ∧
    ((c.upload .epoch .epoch Client.exampleId none "a.b/c.tar.gz" [120]).start oneObject).1 =
      .ok key := by
  intro c key
  have hid : IsId Client.exampleId := by decide
  have hlength : Client.exampleId.toList.length = 32 := hid.1
  have hdigits : ∀ d ∈ Client.exampleId.toList, Hex.IsDigit d := hid.isDigit
  have hlow : 0 ≤ (Instant.epoch).date.year := by decide
  have hhigh : (Instant.epoch).date.year ≤ 9999 := by decide
  obtain ⟨-, hsame, hextension, hslashes, htrimmed, hanswers⟩ :=
    uploadKey_form hlength hdigits hlow hhigh "a.b/c.tar.gz"
  have hext : IsExtension "a.b/c.tar.gz".toList "gz".toList :=
    ⟨"c.tar".toList, by decide, by decide, by decide, by decide, Or.inr ⟨"a.b".toList, rfl⟩⟩
  obtain ⟨b, hb⟩ : ∃ b, oneObject.backend.buckets.get? "main" = some b := ⟨_, rfl⟩
  have hfits : key.utf8ByteSize ≤ maxKeyOctets := by decide +kernel
  obtain ⟨answer, hanswer⟩ : ∃ answer,
      ((c.upload .epoch .epoch Client.exampleId none "a.b/c.tar.gz" [120]).start oneObject).1 =
        .ok answer := by
    rw [Client.start_upload_of_exists rfl hb hid, Service.storeUnder, if_pos hfits]
    exact ⟨_, rfl⟩
  refine ⟨hlength, hdigits, hlow, hhigh, ?_, hslashes, htrimmed, ?_⟩
  · rw [hsame]
    exact (hextension _ _).mpr hext
  · rw [hanswer, hanswers Store _ c .epoch none [120] oneObject answer hanswer]

end ObjectAccess
