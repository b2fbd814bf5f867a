import ObjectAccess.Proofs.Naming.BucketName
import ObjectAccess.Proofs.Naming.ObjectKey
import ObjectAccess.Proofs.Percent
import ObjectAccess.Store.Basic

/-!
# A plain URL names one object

The plain URL of an object is the endpoint without the slashes at its end, and after it the path
of the object as it is written in a URL.  A written path follows a grammar of its own
(`IsWrittenPath`): unreserved characters, slashes and escapes.  No query and no fragment can start
in it, and it is read back as the path of the object.

So the URLs of one endpoint tell objects apart (`exists_plainUrl`).  A bucket name has no slash in
it, so the path is the bucket up to its second slash and the key from there on, whatever the key
holds.  The characters of a bucket name are all unreserved, so the name can be seen in the URL.
-/

namespace ObjectAccess

set_option autoImplicit false

open ObjectAccess.Text

/-! ## The grammar of a path -/

/-- Whether a character is a digit of those that are written. -/
def Hex.IsUpperDigit (c : Char) : Prop := ('0' ≤ c ∧ c ≤ '9') ∨ ('A' ≤ c ∧ c ≤ 'F')

instance (c : Char) : Decidable (Hex.IsUpperDigit c) := inferInstanceAs (Decidable (_ ∨ _))

theorem Hex.isUpperDigit_upperDigit : ∀ n < 16, IsUpperDigit (upperDigit n) := by decide

theorem Hex.IsUpperDigit.isUnreserved {c : Char} (h : IsUpperDigit c) :
    Percent.isUnreserved c = true := by
  have halnum : c.isAlphanum = true := by
    simp only [Char.isAlphanum, Char.isAlpha, Char.isUpper, Char.isDigit, Bool.or_eq_true,
      Bool.and_eq_true, decide_eq_true_eq]
    rcases h with hdigit | hletter
    · exact Or.inr hdigit
    · exact Or.inl (Or.inl ⟨hletter.1, hletter.2.trans (by decide : 'F' ≤ 'Z')⟩)
  rw [Percent.isUnreserved, halnum]
  rfl

namespace Percent

/-- A path as it stands in a URL: unreserved characters, slashes, and escapes with upper-case
digits. -/
inductive IsWrittenPath : List Char → Prop where
  | nil : IsWrittenPath []
  | kept {c : Char} {rest : List Char} (hc : isUnreserved c = true ∨ c = '/')
      (hrest : IsWrittenPath rest) : IsWrittenPath (c :: rest)
  | escape {high low : Char} {rest : List Char} (hhigh : Hex.IsUpperDigit high)
      (hlow : Hex.IsUpperDigit low) (hrest : IsWrittenPath rest) :
      IsWrittenPath ('%' :: high :: low :: rest)

namespace IsWrittenPath

variable {path rest : List Char}

/-- The escapes of any octets can stand before a written path. -/
theorem escapes (bytes : List UInt8) (hrest : IsWrittenPath rest) :
    IsWrittenPath (bytes.flatMap Percent.escape ++ rest) := by
  induction bytes with
  | nil => exact hrest
  | cons b others ih =>
      have hb : b.toNat < 256 := b.toNat_lt_size
      exact .escape (Hex.isUpperDigit_upperDigit _ (by omega))
        (Hex.isUpperDigit_upperDigit _ (by omega)) ih

/-- What is written is a written path if it keeps no other characters. -/
theorem encodeWith {keep : Char → Bool}
    (hkeep : ∀ c, keep c = true → isUnreserved c = true ∨ c = '/') (text : List Char) :
    IsWrittenPath (encodeWith keep text) := by
  induction text with
  | nil => exact .nil
  | cons c others ih =>
      rw [Percent.encodeWith, List.flatMap_cons]
      split
      · next hc => exact .kept (hkeep c hc) ih
      · exact escapes _ ih

theorem encodePath (path : List Char) : IsWrittenPath (encodePath path) := by
  rw [encodePath_eq_encodeWith]
  apply encodeWith
  intro c hc
  rwa [isKeptInSegments, Bool.or_eq_true, decide_eq_true_eq] at hc

/-- Nothing in a written path starts a query or a fragment, and there is no white space in it. -/
theorem forall_mem (h : IsWrittenPath path) :
    ∀ c ∈ path, c ≠ '?' ∧ c ≠ '#' ∧ isBlank c = false := by
  have unreserved : ∀ c, isUnreserved c = true → c ≠ '?' ∧ c ≠ '#' ∧ isBlank c = false := by
    intro c hc
    have htable : ∀ n < 0x7F, isUnreserved (Char.ofNat n) = true →
        (!isBlank (Char.ofNat n)) = true := by decide
    have hblank : (!isBlank c) = true :=
      test_of_toNat_lt (q := fun d => !isBlank d) htable (isUnreserved_range hc).2 hc
    exact ⟨ne_of_isUnreserved hc (by decide), ne_of_isUnreserved hc (by decide),
      by simpa using hblank⟩
  induction h with
  | nil => exact fun c hc => absurd hc List.not_mem_nil
  | kept hc _ ih =>
      refine List.forall_mem_cons.mpr ⟨?_, ih⟩
      rcases hc with hc | rfl
      · exact unreserved _ hc
      · decide
  | escape hhigh hlow _ ih =>
      simp only [List.forall_mem_cons]
      exact ⟨by decide, unreserved _ hhigh.isUnreserved, unreserved _ hlow.isUnreserved, ih⟩

end IsWrittenPath

end Percent

/-! ## The endpoint -/

/-- Whether a text is another one without the slashes at its end. -/
def WithoutEndSlashes (base text : List Char) : Prop :=
  (∃ n, text = base ++ List.replicate n '/') ∧ base.getLast? ≠ some '/'

theorem withoutEndSlashes_dropEndWhile (text : List Char) :
    WithoutEndSlashes (dropEndWhile (· = '/') text) text := by
  refine ⟨exists_replicate_dropEndWhile '/' text, ?_⟩
  intro hlast
  have hslash := eq_false_of_getLast?_dropEndWhile hlast
  cases hslash

/-! ## Bucket names -/

namespace Naming

/-- The characters of a bucket name that passes are unreserved, and none of them is a slash. -/
theorem isUnreserved_of_checkBucketName {name : String} (h : checkBucketName name = .ok ()) :
    ∀ c ∈ name.toList, Percent.isUnreserved c = true ∧ c ≠ '/' := by
  intro c hc
  have hunreserved : Percent.isUnreserved c = true := by
    simp only [Percent.isUnreserved, Char.isAlphanum, Char.isAlpha, Bool.or_eq_true,
      decide_eq_true_eq]
    rcases (checkBucketName_eq_ok_iff.mp h).characters c hc with hletter | hhyphen | hdot
    · rcases Bool.or_eq_true_iff.mp (isLetterOrDigit_iff.mpr hletter) with hlower | hdigit
      · simp [hlower]
      · simp [hdigit]
    · simp [hhyphen]
    · simp [hdot]
  exact ⟨hunreserved, Percent.ne_of_isUnreserved hunreserved (by decide)⟩

end Naming

/-! ## The URL -/

namespace Store

variable (s : Store)

theorem toList_objectPath (o : ObjectLocation) :
    (objectPath o).toList = '/' :: (o.bucket.toList ++ '/' :: o.key.toList) := by
  simp [objectPath, String.toList_append]

theorem toList_plainUrl (o : ObjectLocation) :
    (s.plainUrl o).toList = dropEndWhile (· = '/') s.config.endpoint.toList ++
      Percent.encodePath (objectPath o).toList := by
  rw [plainUrl, String.toList_ofList]

theorem toList_encoded_objectPath (o : ObjectLocation) (h : '/' ∉ o.bucket.toList) :
    Percent.encodePath (objectPath o).toList =
      '/' :: (Percent.encode o.bucket.toList ++ '/' :: Percent.encodePath o.key.toList) := by
  rw [toList_objectPath, Percent.encodePath_slash, Percent.encodePath_append h]

/-- The path of an object tells its bucket from its key. -/
theorem eq_of_objectPath {a b : ObjectLocation} (ha : '/' ∉ a.bucket.toList)
    (hb : '/' ∉ b.bucket.toList) (h : objectPath a = objectPath b) : a = b := by
  have htext : a.bucket.toList ++ '/' :: a.key.toList = b.bucket.toList ++ '/' :: b.key.toList := by
    have hpath := congrArg String.toList h
    rw [toList_objectPath, toList_objectPath] at hpath
    exact (List.cons.inj hpath).2
  have hcut := cut?_append a.key.toList ha
  rw [htext, cut?_append b.key.toList hb, Option.some.injEq, Prod.mk.injEq] at hcut
  obtain ⟨hbucket, hkey⟩ := hcut
  cases a
  cases b
  rw [ObjectLocation.mk.injEq]
  exact ⟨(String.toList_inj.mp hbucket).symm, (String.toList_inj.mp hkey).symm⟩

/-- Stores with the same endpoint give different objects different URLs. -/
theorem eq_of_plainUrl {s t : Store} (hendpoint : s.config.endpoint = t.config.endpoint)
    {a b : ObjectLocation} (ha : '/' ∉ a.bucket.toList) (hb : '/' ∉ b.bucket.toList)
    (h : s.plainUrl a = t.plainUrl b) : a = b := by
  have hpath : Percent.encodePath (objectPath a).toList =
      Percent.encodePath (objectPath b).toList := by
    have htext := congrArg String.toList h
    rw [toList_plainUrl, toList_plainUrl, hendpoint] at htext
    exact List.append_cancel_left htext
  have hread := congrArg Percent.decode hpath
  rw [Percent.decode_encodePath, Percent.decode_encodePath] at hread
  exact eq_of_objectPath ha hb (String.toList_inj.mp hread)

/-- **A plain URL names exactly one object.**  It is the endpoint without the slashes at its end and
a written path that reads, octet by octet, as the bucket and the key, each after a slash.  For one
endpoint, objects in buckets without slashes have different URLs if they differ.  A bucket name that
passes has no slash, and stands in the URL as it is. -/
theorem exists_plainUrl (s : Store) :
    ∃ base, WithoutEndSlashes base s.config.endpoint.toList ∧
      (∀ o : ObjectLocation, ∃ path, (s.plainUrl o).toList = base ++ path ∧
        Percent.IsWrittenPath path ∧ (∀ c ∈ path, c ≠ '?' ∧ c ≠ '#' ∧ isBlank c = false) ∧
        Percent.decodeOctets (octets path) =
          octets ('/' :: (o.bucket.toList ++ '/' :: o.key.toList)) ∧
        Percent.decode path = '/' :: (o.bucket.toList ++ '/' :: o.key.toList)) ∧
      (∀ (t : Store) (a b : ObjectLocation), t.config.endpoint = s.config.endpoint →
        '/' ∉ a.bucket.toList → '/' ∉ b.bucket.toList → s.plainUrl a = t.plainUrl b → a = b) ∧
      ∀ name, Naming.checkBucketName name = .ok () → '/' ∉ name.toList ∧
        ∀ key, ∃ path, (s.plainUrl ⟨name, key⟩).toList =
          base ++ '/' :: (name.toList ++ '/' :: path) ∧
          Percent.IsWrittenPath path ∧ Percent.decode path = key.toList := by
  refine ⟨_, withoutEndSlashes_dropEndWhile _, fun o => ?_, ?_, fun name hname => ?_⟩
  · have hwritten := Percent.IsWrittenPath.encodePath (objectPath o).toList
    refine ⟨_, s.toList_plainUrl o, hwritten, hwritten.forall_mem, ?_, ?_⟩
    · rw [Percent.decodeOctets_encodePath, toList_objectPath]
    · rw [Percent.decode_encodePath, toList_objectPath]
  · intro t a b hendpoint ha hb h
    exact eq_of_plainUrl hendpoint.symm ha hb h
  · have hchars := Naming.isUnreserved_of_checkBucketName hname
    have hslash : '/' ∉ name.toList := fun h => (hchars '/' h).2 rfl
    refine ⟨hslash, fun key => ⟨_, ?_, Percent.IsWrittenPath.encodePath key.toList,
      Percent.decode_encodePath _⟩⟩
    rw [toList_plainUrl, toList_encoded_objectPath ⟨name, key⟩ hslash,
      Percent.encode_of_isUnreserved fun c hc => (hchars c hc).1]

/-- A store whose endpoint ends with two slashes. -/
def slashedStore : Store := .empty { Config.standard with endpoint := "http://localhost:9000//" }

/-- The theorem at a key with a blank and the key that is its written form. -/
theorem exists_plainUrl_twoSpellings :
    Naming.checkBucketName "photos" = .ok () ∧
      slashedStore.plainUrl ⟨"photos", "a b"⟩ ≠ slashedStore.plainUrl ⟨"photos", "a%20b"⟩ ∧
      ∃ base path, WithoutEndSlashes base "http://localhost:9000//".toList ∧
        (slashedStore.plainUrl ⟨"photos", "a%20b"⟩).toList =
          base ++ "/photos/".toList ++ path ∧
        Percent.IsWrittenPath path ∧ Percent.decode path = "a%20b".toList := by
  have hname : Naming.checkBucketName "photos" = .ok () := by rfl
  obtain ⟨base, hbase, -, hdifferent, hplain⟩ := exists_plainUrl slashedStore
  obtain ⟨hslash, hkeys⟩ := hplain "photos" hname
  obtain ⟨path, hurl, hwritten, hread⟩ := hkeys "a%20b"
  refine ⟨hname, fun h => ?_, base, path, hbase, ?_, hwritten, hread⟩
  · have hsame := hdifferent slashedStore _ _ rfl hslash hslash h
    exact absurd (congrArg ObjectLocation.key hsame) (by decide)
  · rw [hurl, List.append_assoc]
    rfl

end Store

end ObjectAccess
