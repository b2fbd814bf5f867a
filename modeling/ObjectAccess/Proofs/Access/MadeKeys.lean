import ObjectAccess.Proofs.Access.Storing
import ObjectAccess.Proofs.Naming.MadeKeys

/-!
# Objects under keys that are made

A client makes the key of an upload and that of a copy without a target path.  The one has no
slashes at its ends and the other is not trimmed, so both are checked as they were made.  Neither
is empty, so all that can be wrong with it is its size (`Service.storeUnder`).  An upload into a
bucket that exists succeeds just if the extension of the file name leaves room for the day and the
id, and a copy of an object that is there just if the key of the source leaves room for the time
(`Client.start_madeKey`).
-/

namespace ObjectAccess

set_option autoImplicit false

open ObjectAccess.Naming ObjectAccess.Text ObjectAccess.Time

/-- What comes of storing an object in a bucket under a key that is not empty: the key, or a fault
if the key is too long. -/
def Service.storeUnder (s : Service Store) (name key : String) (b : Bucket) (o : StoredObject) :
    Except Fault String × Service Store :=
  if key.utf8ByteSize ≤ maxKeyOctets then (.ok key, s.withBucket name (b.put key o))
  else (.error (.invalidRequest "Your key is too long"), s)

namespace Client

variable {c : Client} {bucket : Option String} {name key : String} {s : Service Store} {b : Bucket}

/-! ## Storing -/

/-- An object is stored under its path, if that is trimmed already. -/
theorem start_put_of_exists (hname : c.bucket bucket = .ok name)
    (h : s.backend.buckets.get? name = some b) (hkey : IsNormalised key)
    (hpos : 0 < key.utf8ByteSize) (now : Instant) (body : List UInt8) :
    (c.put now bucket key body).start s = s.storeUnder name key b (.ofBody body now) := by
  rw [start_put_of_get? hname h, trimSlashes_of_isNormalised hkey, checkObjectKey_of_pos hpos,
    Service.storeUnder]
  by_cases hle : key.utf8ByteSize ≤ maxKeyOctets
  · rw [if_pos hle, if_pos hle]
  · rw [if_neg hle, if_neg hle]

theorem start_upload_of_exists (hname : c.bucket bucket = .ok name)
    (h : s.backend.buckets.get? name = some b) {id : String} (hid : IsId id)
    (made now : Instant) (fileName : String) (body : List UInt8) :
    (c.upload made now id bucket fileName body).start s =
      s.storeUnder name (uploadKey fileName id made) b (.ofBody body now) := by
  have hpos : 0 < (uploadKey fileName id made).utf8ByteSize := by
    rw [utf8ByteSize_uploadKey hid]
    omega
  have hkey := isNormalised_uploadKey hid.toList_ne_nil hid.slash_not_mem fileName made
  exact start_put_of_exists hname h hkey hpos now body

/-! ## Copying -/

/-- A copy is stored under its key, whether that was given or made. -/
theorem start_copy_of_stored (hname : c.bucket bucket = .ok name) {path : String}
    {o : StoredObject} (ho : s.backend.object? ⟨name, path⟩ = some o)
    {target targetPath : Option String}
    (h : s.backend.buckets.get? ((named? target).getD name) = some b) (made now : Instant)
    (hkey : targetPath.getD (copyKey path made) = key) (hpos : 0 < key.utf8ByteSize) :
    (c.copy made now bucket path target targetPath).start s =
      s.storeUnder ((named? target).getD name) key b (.ofBody o.body now) := by
  have hcheck := checkObjectKey_of_pos hpos
  rw [copy, start_chosen_bind c hname, hkey, Service.storeUnder]
  generalize (named? target).getD name = targetName at h
  have hrequest := Task.start_onBackend_update (·.copy now ⟨name, path⟩ ⟨targetName, key⟩) s
  by_cases hle : key.utf8ByteSize ≤ maxKeyOctets
  · rw [if_pos hle] at hcheck ⊢
    have hcopy : s.backend.copy now ⟨name, path⟩ ⟨targetName, key⟩ =
        .ok (s.backend.withBucket targetName (b.put key (.ofBody o.body now))) := by
      rw [Store.copy, hcheck, Store.object_eq_ok_iff.mpr ho,
        Store.bucket_eq_ok_iff.mpr h]
      rfl
    rw [hcopy] at hrequest
    exact Task.start_bind_of_ok hrequest _
  · rw [if_neg hle] at hcheck ⊢
    have hcopy : s.backend.copy now ⟨name, path⟩ ⟨targetName, key⟩ =
        .error (.invalidRequest "Your key is too long") := by
      rw [Store.copy, hcheck]
      rfl
    rw [hcopy] at hrequest
    exact Task.start_bind_of_error hrequest _

theorem start_copy_madeKey (hname : c.bucket bucket = .ok name) {path : String}
    {o : StoredObject} (ho : s.backend.object? ⟨name, path⟩ = some o) {target : Option String}
    (h : s.backend.buckets.get? ((named? target).getD name) = some b) (made now : Instant) :
    (c.copy made now bucket path target none).start s =
      s.storeUnder ((named? target).getD name) (copyKey path made) b (.ofBody o.body now) := by
  have hpos : 0 < (copyKey path made).utf8ByteSize := by
    rw [utf8ByteSize_copyKey]
    omega
  exact start_copy_of_stored hname ho h made now rfl hpos

/-! ## When a made key is stored -/

/-- **A made key is stored just if it has at most 1024 octets**; otherwise it is refused as too
long, and nothing changes.  Without an extension the key of an upload always fits, and with one it
fits if the day and the extension have at most 990 octets, that is 980 for the extension in a year
of four digits.  The key of a copy fits if the time and the key of the source have at most 1018
octets.  The object gets the time at which it is stored, and the key has the time at which it was
made. -/
theorem start_madeKey (hname : c.bucket bucket = .ok name) (s : Service Store)
    (made now : Instant) :
    (∀ (b : Bucket) (id fileName : String) (body : List UInt8),
      s.backend.buckets.get? name = some b → IsId id →
      (c.upload made now id bucket fileName body).start s =
        s.storeUnder name (uploadKey fileName id made) b (.ofBody body now) ∧
      ((uploadKey fileName id made).utf8ByteSize ≤ maxKeyOctets ↔
        ∀ ext, extension? fileName.toList = some ext →
          made.datePath.length + (octets ext).length ≤ 990)) ∧
    (∀ (path : String) (o : StoredObject) (target : Option String) (b : Bucket),
      s.backend.object? ⟨name, path⟩ = some o →
      s.backend.buckets.get? ((named? target).getD name) = some b →
      (c.copy made now bucket path target none).start s =
        s.storeUnder ((named? target).getD name) (copyKey path made) b (.ofBody o.body now) ∧
      ((copyKey path made).utf8ByteSize ≤ maxKeyOctets ↔
        (Decimal.ofInt made.seconds).length + path.utf8ByteSize ≤ 1018)) ∧
    made.datePath.length ≤ 13 ∧
    (0 ≤ made.date.year → made.date.year ≤ 9999 → made.datePath.length = 10) := by
  refine ⟨fun b id fileName body hbucket hid => ⟨?_, ?_⟩,
    fun path o target b ho htarget => ⟨?_, ?_⟩,
    made.length_datePath_le, made.length_datePath_of_fourDigits⟩
  · exact start_upload_of_exists hname hbucket hid made now fileName body
  · exact utf8ByteSize_uploadKey_le_iff hid fileName made
  · exact start_copy_madeKey hname ho htarget made now
  · rw [utf8ByteSize_copyKey, maxKeyOctets]
    omega

/-- An id. -/
def exampleId : String := "0123456789abcdef0123456789abcdef"

/-- The theorem at a picture and at a copy, both of which fit. -/
theorem start_madeKey_picture :
    let c : Client := ⟨"main", .standard⟩
    c.bucket none = .ok "main" ∧ IsId exampleId ∧
    ((c.upload .epoch .epoch exampleId none "a.png" []).start oneObject).1 =
      .ok "1970/01/01/0123456789abcdef0123456789abcdef.png" ∧
    ((c.copy .epoch .epoch none "a" none none).start oneObject).1 = .ok "copy_0_a" := by
  intro c
  have hname : c.bucket none = .ok "main" := rfl
  have hid : IsId exampleId := by decide
  obtain ⟨hupload, hcopy, -⟩ := start_madeKey hname oneObject .epoch .epoch
  obtain ⟨b, hb⟩ : ∃ b, oneObject.backend.buckets.get? "main" = some b := ⟨_, rfl⟩
  obtain ⟨o, ho⟩ : ∃ o, oneObject.backend.object? ⟨"main", "a"⟩ = some o := ⟨_, rfl⟩
  have huploadKey : uploadKey "a.png" exampleId .epoch =
      "1970/01/01/0123456789abcdef0123456789abcdef.png" := by decide +kernel
  have hcopyKey : copyKey "a" .epoch = "copy_0_a" := by decide +kernel
  refine ⟨hname, hid, ?_, ?_⟩
  · rw [(hupload b exampleId "a.png" [] hb hid).1, huploadKey]
    rfl
  · rw [(hcopy "a" o none b ho hb).1, hcopyKey]
    rfl

/-- An extension that leaves no room, and a key that leaves none although an object can be stored
under it, lead to made keys that are refused. -/
theorem refused_of_long (hname : c.bucket bucket = .ok name)
    (hb : s.backend.buckets.get? name = some b) {made : Instant} {id fileName source : String}
    {ext : List Char} (hid : IsId id) (hext : extension? fileName.toList = some ext)
    (hroom : 990 < made.datePath.length + (octets ext).length) (hsource : IsNormalised source)
    (hfits : source.utf8ByteSize ≤ maxKeyOctets)
    (hlong : 1018 < (Decimal.ofInt made.seconds).length + source.utf8ByteSize)
    (hpos : 0 < source.utf8ByteSize) (now : Instant) (body : List UInt8) :
    let stored := ((c.put now bucket source body).start s).2
    stored.backend.object? ⟨name, source⟩ = some (.ofBody body now) ∧
    ((c.upload made now id bucket fileName body).start stored).1 =
      .error (.invalidRequest "Your key is too long") ∧
    ((c.copy made now bucket source none none).start stored).1 =
      .error (.invalidRequest "Your key is too long") := by
  have hput := start_put_of_exists hname hb hsource hpos now body
  rw [Service.storeUnder, if_pos hfits] at hput
  rw [hput]
  intro stored
  have hbucket : stored.backend.buckets.get? name = some (b.put source (.ofBody body now)) :=
    Store.get?_withBucket ..
  have hobject : stored.backend.object? ⟨name, source⟩ = some (.ofBody body now) := by
    rw [Store.object?_of_get? hbucket, Bucket.get?_put, if_pos rfl]
  refine ⟨hobject, ?_, ?_⟩
  · have hrefused : ¬(uploadKey fileName id made).utf8ByteSize ≤ maxKeyOctets := fun hle =>
      absurd ((utf8ByteSize_uploadKey_le_iff hid fileName made).mp hle ext hext) (by omega)
    rw [start_upload_of_exists hname hbucket hid, Service.storeUnder, if_neg hrefused]
  · have hsize := utf8ByteSize_copyKey source made
    have hrefused : ¬(copyKey source made).utf8ByteSize ≤ maxKeyOctets := by
      rw [maxKeyOctets]
      omega
    have htarget : stored.backend.buckets.get? ((named? none).getD name) = _ := hbucket
    rw [start_copy_madeKey hname hobject htarget made now, Service.storeUnder, if_neg hrefused]

/-- Not every made key is stored: that of an upload with an extension of 981 octets is refused,
and so is that of a copy of an object whose key has 1024 octets. -/
theorem start_madeKey_tooLong :
    let c : Client := ⟨"main", .standard⟩
    let fileName := String.ofList ('a' :: '.' :: List.replicate 981 'x')
    let source := String.ofList (List.replicate 1024 'k')
    let stored := ((c.put .epoch none source [120]).start oneObject).2
    IsId exampleId ∧ stored.backend.object? ⟨"main", source⟩ = some (.ofBody [120] .epoch) ∧
    ((c.upload .epoch .epoch exampleId none fileName [120]).start stored).1 =
      .error (.invalidRequest "Your key is too long") ∧
    ((c.copy .epoch .epoch none source none none).start stored).1 =
      .error (.invalidRequest "Your key is too long") := by
  have hid : IsId exampleId := by decide
  obtain ⟨b, hb⟩ : ∃ b, oneObject.backend.buckets.get? "main" = some b := ⟨_, rfl⟩
  have hday : (Instant.epoch).datePath.length = 10 := by decide
  have htime : (Decimal.ofInt (Instant.epoch).seconds).length = 1 := by decide
  have hext : (octets (List.replicate 981 'x')).length = 981 := by
    rw [← utf8ByteSize_ofList, utf8ByteSize_replicate 981 (by decide)]
  have hsource : (String.ofList (List.replicate 1024 'k')).utf8ByteSize = 1024 :=
    utf8ByteSize_replicate 1024 (by decide)
  refine ⟨hid, refused_of_long rfl hb hid (extension?_replicate (by decide)) ?_
    (isNormalised_replicate 1024 (by decide)) ?_ ?_ ?_ _ [120]⟩
  · rw [hday, hext]
    decide
  · rw [hsource, maxKeyOctets]
  · rw [htime, hsource]
    decide
  · rw [hsource]
    decide

end Client

end ObjectAccess
