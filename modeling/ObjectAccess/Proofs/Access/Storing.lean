import ObjectAccess.Proofs.Access.Deletion
import ObjectAccess.Proofs.Access.Pages
import ObjectAccess.Proofs.Naming.ObjectKey

/-!
# Objects under trimmed keys

A client that stores an object trims its path and checks the size of what is left, and an object is
stored just if that passes (`Client.start_put_of_exists`).  Then it is found under the trimmed key
and in every listing that covers the key, once (`Service.Serves`), and all other objects are as they
were (`Service.Stored`).

Paths that are trimmed to the same key are paths of the same object: storing under one of them
takes the place of what was stored under another (`Client.start_put_trimmed`).
-/

namespace ObjectAccess

set_option autoImplicit false

open ObjectAccess.Naming ObjectAccess.Time

/-! ## Buckets -/

namespace Bucket

/-- Objects that are put under the same key replace each other. -/
theorem put_put (b : Bucket) (key : String) (o other : StoredObject) :
    (b.put key o).put key other = b.put key other := by
  apply eq_of_head
  · rfl
  · intro place
    simp only [get?_put]
    split <;> rfl

/-- A listing that covers a key shows the object under it once. -/
theorem filter_matching {b : Bucket} {request : ListRequest} {key : String} {o : StoredObject}
    (hget : b.objects.get? key = some o) (hlisted : isListed request key = true) :
    (b.matching request).filter (·.key = key) = [o.summary key] := by
  have hmem : o.summary key ∈ b.matching request :=
    (b.mem_matching request).mpr ⟨o, hget, hlisted, rfl⟩
  obtain ⟨front, rest, hsplit⟩ := List.append_of_mem hmem
  have hordered := b.pairwise_matching request
  rw [hsplit, List.pairwise_append, List.pairwise_cons] at hordered
  obtain ⟨-, ⟨hrest, -⟩, hfront⟩ := hordered
  -- The keys ascend, so those before the object are smaller than its key and those after it larger.
  have hbefore : front.filter (·.key = key) = [] := by
    rw [List.filter_eq_nil_iff]
    intro x hx
    have hlt : x.key < key := hfront x hx _ (List.mem_cons_self ..)
    simpa using hlt.ne
  have hafter : rest.filter (·.key = key) = [] := by
    rw [List.filter_eq_nil_iff]
    intro x hx
    have hlt : key < x.key := hrest x hx
    simpa using hlt.ne'
  have hself : (o.summary key :: rest).filter (·.key = key) =
      o.summary key :: rest.filter (·.key = key) := List.filter_cons_of_pos (decide_eq_true rfl)
  rw [hsplit, List.filter_append, hbefore, hself, hafter, List.nil_append]

/-- A listing under a key starts with the object under it: no key that starts with the key comes
before it. -/
theorem head?_matching (b : Bucket) (request : ListRequest) {o : StoredObject}
    (hget : b.objects.get? request.keyStart = some o) (hmarker : request.marker = none) :
    (b.matching request).head? = some (o.summary request.keyStart) := by
  have hlisted : isListed request request.keyStart = true := by
    rw [isListed_iff, hmarker]
    exact ⟨List.prefix_refl _, nofun⟩
  have hmem : o.summary request.keyStart ∈ b.matching request :=
    (b.mem_matching request).mpr ⟨o, hget, hlisted, rfl⟩
  obtain ⟨front, rest, hsplit⟩ := List.append_of_mem hmem
  have hfront : front = [] := by
    rw [List.eq_nil_iff_forall_not_mem]
    intro x hx
    have hordered := b.pairwise_matching request
    rw [hsplit, List.pairwise_append] at hordered
    have hlt : x.key < request.keyStart := hordered.2.2 x hx _ (List.mem_cons_self ..)
    have hx' : x ∈ b.matching request := hsplit ▸ List.mem_append_left _ hx
    obtain ⟨-, -, hstart, -⟩ := (b.mem_matching request).mp hx'
    have hle := (isListed_iff.mp hstart).1.le
    exact List.not_lt.mpr hle (String.lt_iff_toList_lt.mp hlt)
  rw [hsplit, hfront]
  rfl

end Bucket

/-! ## Services -/

/-- Whether a service differs from another one only in the object at one place. -/
structure Service.Stored (before : Service Store) (place : ObjectLocation) (o : StoredObject)
    (after : Service Store) : Prop where
  held : after.backend.object? place = some o
  /-- Every other object has the body, the tag and the date that it had. -/
  kept : ∀ other, other ≠ place → after.backend.object? other = before.backend.object? other
  /-- The same buckets exist, with the policies that they had. -/
  heads : ∀ name, after.backend.head? name = before.backend.head? name
  config : after.backend.config = before.backend.config
  registry : after.registry = before.registry

/-- Whether every client that works on a bucket reads a body under a key, and finds the key once
in all that it lists under a text that the key starts with.  Under the key itself it stands on the
first page, before all others. -/
structure Service.Serves (s : Service Store) (name key : String) (body : List UInt8) : Prop where
  get : ∀ (c : Client) (bucket : Option String), c.bucket bucket = .ok name →
    (c.get bucket key).start s = (.ok body, s)
  list : ∀ (c : Client) (bucket : Option String) (path : String), c.bucket bucket = .ok name →
    path.toList <+: key.toList → ∃ objects x,
      (c.listAll bucket path).start s = (.ok (some objects), s) ∧
      (c.list bucket path).start s = (.ok (objects.take 1000), s) ∧
      objects.filter (·.key = key) = [x] ∧ x.size = body.length ∧
      (path = key → objects.head? = some x)

namespace Service

variable {s : Service Store} {name key : String} {b : Bucket} {o : StoredObject}

theorem stored_withBucket (h : s.backend.buckets.get? name = some b) (key : String)
    (o : StoredObject) : s.Stored ⟨name, key⟩ o (s.withBucket name (b.put key o)) where
  held := by rw [withBucket, Store.object?_withBucket, if_pos rfl, Bucket.get?_put, if_pos rfl]
  kept place hplace := by
    apply Store.object?_withBucket_of_get?
    rintro rfl
    have hkey : place.key ≠ key := fun heq => hplace (heq ▸ rfl)
    rw [Bucket.get?_put, if_neg hkey, Store.object?_of_get? h]
  heads other := Store.head?_withBucket_of_get? h (b.head_put key o) other
  config := rfl
  registry := rfl

/-- What a bucket holds is served from it. -/
theorem serves_of_get? (h : s.backend.buckets.get? name = some b)
    (ho : b.objects.get? key = some o) : s.Serves name key o.body where
  get c bucket hname := by
    have hread : (Service.onBackend (Backend.get name key)).start s =
        (s.backend.get name key, s) := rfl
    have hobject : s.backend.object? ⟨name, key⟩ = some o := (Store.object?_of_get? h).trans ho
    rw [Client.get, Client.start_chosen_bind c hname, hread,
      Store.get_eq_ok_iff.mpr ⟨o, hobject, rfl⟩]
  list c bucket path hname hpath := by
    have hlisted : Bucket.isListed (Client.listing name path) key = true :=
      Bucket.isListed_iff.mpr ⟨hpath, nofun⟩
    refine ⟨b.matching (Client.listing name path), o.summary key,
      Client.start_listAll_of_exists c hname h path, Client.start_list c hname h path,
      Bucket.filter_matching ho hlisted, rfl, ?_⟩
    rintro rfl
    exact b.head?_matching (Client.listing name path) ho rfl

end Service

/-! ## Clients -/

namespace Client

variable {c : Client} {bucket : Option String} {name path : String} {s : Service Store} {b : Bucket}

/-- What storing in a bucket comes to: the trimmed path decides. -/
theorem start_put_of_get? (hname : c.bucket bucket = .ok name)
    (h : s.backend.buckets.get? name = some b) (now : Instant) (path : String)
    (body : List UInt8) :
    (c.put now bucket path body).start s =
      match checkObjectKey (trimSlashes path) with
      | .ok () =>
        (.ok (trimSlashes path), s.withBucket name (b.put (trimSlashes path) (.ofBody body now)))
      | .error fault => (.error fault, s) := by
  rw [put, start_chosen_bind c hname]
  cases hcheck : checkObjectKey (trimSlashes path) with
  | error fault => exact Task.start_bind_of_error (by rw [Task.start_look, hcheck]) _
  | ok checked =>
      have hlook : (Task.look fun _ : Service Store => checkObjectKey (trimSlashes path)).start s =
          (.ok (), s) := by
        rw [Task.start_look, hcheck]
      have hput : s.backend.put now name (trimSlashes path) body = .ok (entityTag body,
          s.backend.withBucket name (b.put (trimSlashes path) (.ofBody body now))) := by
        rw [Store.put, hcheck, Store.bucket_eq_ok_iff.mpr h]
        rfl
      have hrequest := Task.start_onBackend_change (·.put now name (trimSlashes path) body) s
      rw [hput] at hrequest
      exact (Task.start_bind_of_ok hlook _).trans (Task.start_bind_of_ok hrequest _)

theorem start_put_of_ok (hname : c.bucket bucket = .ok name)
    (h : s.backend.buckets.get? name = some b) (hkey : checkObjectKey (trimSlashes path) = .ok ())
    (now : Instant) (body : List UInt8) :
    (c.put now bucket path body).start s =
      (.ok (trimSlashes path),
        s.withBucket name (b.put (trimSlashes path) (.ofBody body now))) := by
  rw [start_put_of_get? hname h, hkey]

/-- An object that is stored is served, and nothing else has changed. -/
theorem exists_start_put (hname : c.bucket bucket = .ok name)
    (hexists : s.backend.bucketExists name = true)
    (hkey : checkObjectKey (trimSlashes path) = .ok ()) (now : Instant) (body : List UInt8) :
    ∃ after, (c.put now bucket path body).start s = (.ok (trimSlashes path), after) ∧
      s.Stored ⟨name, trimSlashes path⟩ (.ofBody body now) after ∧
      after.Serves name (trimSlashes path) body := by
  obtain ⟨b, h⟩ := Store.bucketExists_iff.mp hexists
  refine ⟨_, start_put_of_ok hname h hkey now body, Service.stored_withBucket h _ _, ?_⟩
  have hheld : (b.put (trimSlashes path) (.ofBody body now)).objects.get? (trimSlashes path) =
      some (.ofBody body now) := by
    rw [Bucket.get?_put, if_pos rfl]
  exact Service.serves_of_get? (s.get?_withBucket name _) hheld

/-- Storing under two paths of the same object comes to the same as storing under the last one. -/
theorem start_put_put (hname : c.bucket bucket = .ok name)
    (hexists : s.backend.bucketExists name = true)
    (hkey : checkObjectKey (trimSlashes path) = .ok ()) (now : Instant) (body : List UInt8)
    {writer : Client} {itsBucket : Option String} (hwriter : writer.bucket itsBucket = .ok name)
    {other : String} (hother : trimSlashes other = trimSlashes path) (later : Instant)
    (text : List UInt8) :
    (writer.put later itsBucket other text).start ((c.put now bucket path body).start s).2 =
      (writer.put later itsBucket other text).start s := by
  obtain ⟨b, h⟩ := Store.bucketExists_iff.mp hexists
  rw [start_put_of_ok hname h hkey]
  have hkey' : checkObjectKey (trimSlashes other) = .ok () := hother ▸ hkey
  rw [start_put_of_ok hwriter (s.get?_withBucket name _) hkey', start_put_of_ok hwriter h hkey',
    hother, Bucket.put_put, Service.withBucket_withBucket]

/-- **An object is stored under its trimmed path, and nothing else changes.**  A client stores an
object in a bucket that exists just if the path without the slashes at its ends has 1 to 1024
octets, and then answers that key, which is trimmed already.  Every client of the bucket reads the
body under the key and finds it once in its listings.  Whatever path is trimmed to the same key,
the key itself among them, storing under it takes the place of this object: at once as if it had
not been stored, and later in whatever has become of the bucket. -/
theorem start_put_trimmed (hname : c.bucket bucket = .ok name) (s : Service Store)
    (hexists : s.backend.bucketExists name = true) (now : Instant) (path : String)
    (body : List UInt8) :
    let key := trimSlashes path
    let answer := ((c.put now bucket path body).start s).1
    let after := ((c.put now bucket path body).start s).2
    IsTrimmed path key ∧ IsTrimmed key key ∧
    ((∃ stored, answer = .ok stored) ↔ 1 ≤ key.utf8ByteSize ∧ key.utf8ByteSize ≤ 1024) ∧
    ((∃ fault, answer = .error fault) → after = s) ∧
    ∀ stored, answer = .ok stored →
      stored = key ∧ s.Stored ⟨name, key⟩ (.ofBody body now) after ∧ after.Serves name key body ∧
      ∀ (writer : Client) (itsBucket : Option String) (later : Instant) (other : String)
        (text : List UInt8), writer.bucket itsBucket = .ok name → IsTrimmed other key →
        (writer.put later itsBucket other text).start after =
          (writer.put later itsBucket other text).start s ∧
        ∀ ops, (runAll after ops).backend.bucketExists name = true → ∃ last,
          (writer.put later itsBucket other text).start (runAll after ops) = (.ok key, last) ∧
          (runAll after ops).Stored ⟨name, key⟩ (.ofBody text later) last ∧
          last.Serves name key text := by
  intro key answer after
  have htrimmed : IsTrimmed path key := trimSlashes_eq_iff.mp rfl
  refine ⟨htrimmed, trimSlashes_eq_iff.mp (trimSlashes_of_isNormalised htrimmed.2), ?_⟩
  rw [← checkObjectKey_eq_ok_iff]
  cases hkey : checkObjectKey key with
  | error fault =>
      obtain ⟨b, h⟩ := Store.bucketExists_iff.mp hexists
      have hrun : (c.put now bucket path body).start s = (.error fault, s) := by
        rw [start_put_of_get? hname h, hkey]
      have hanswer : answer = .error fault := congrArg Prod.fst hrun
      rw [hanswer]
      exact ⟨iff_of_false nofun nofun, fun _ => congrArg Prod.snd hrun, nofun⟩
  | ok passed =>
      obtain ⟨_, hrun, hstored, hserves⟩ := exists_start_put hname hexists hkey now body
      have hanswer : answer = .ok key := congrArg Prod.fst hrun
      obtain rfl : after = _ := congrArg Prod.snd hrun
      rw [hanswer]
      refine ⟨iff_of_true ⟨key, rfl⟩ rfl, nofun, fun stored hstored' => ?_⟩
      refine ⟨(Except.ok.inj hstored').symm, hstored, hserves, ?_⟩
      intro writer itsBucket later other text hwriter hother
      have hsame : trimSlashes other = key := trimSlashes_eq_iff.mpr hother
      refine ⟨start_put_put hname hexists hkey now body hwriter hsame later text, ?_⟩
      intro ops hlater
      have hkey' : checkObjectKey (trimSlashes other) = .ok () := hsame ▸ hkey
      have hlast := exists_start_put hwriter hlater hkey' later text
      rwa [hsame] at hlast

/-- The theorem at a path with slashes inside and a character of two octets, and then at another
path of the same object. -/
theorem start_put_trimmed_innerSlashes :
    let c : Client := ⟨"main", .standard⟩
    let first := (c.put .epoch none "//ä//b/" [120]).start oneObject
    c.bucket none = .ok "main" ∧ oneObject.backend.bucketExists "main" = true ∧
    first.1 = .ok "ä//b" ∧ IsTrimmed "ä//b///" "ä//b" ∧
    oneObject.Stored ⟨"main", "ä//b"⟩ (.ofBody [120] .epoch) first.2 ∧
    first.2.Serves "main" "ä//b" [120] ∧
    (c.put .epoch none "ä//b///" [121]).start first.2 =
      (c.put .epoch none "ä//b///" [121]).start oneObject := by
  intro c first
  have hname : c.bucket none = .ok "main" := rfl
  have hexists : oneObject.backend.bucketExists "main" = true := rfl
  have hkey : trimSlashes "//ä//b/" = "ä//b" := by decide +kernel
  have hother : IsTrimmed "ä//b///" "ä//b" := trimSlashes_eq_iff.mp (by decide +kernel)
  have hsize : 1 ≤ "ä//b".utf8ByteSize ∧ "ä//b".utf8ByteSize ≤ 1024 := by decide +kernel
  obtain ⟨-, -, hsucceeds, -, hstores⟩ :=
    start_put_trimmed hname oneObject hexists .epoch "//ä//b/" [120]
  rw [hkey] at hsucceeds hstores
  obtain ⟨stored, hanswer⟩ := hsucceeds.mpr hsize
  obtain ⟨rfl, hstored, hserves, hlater⟩ := hstores stored hanswer
  exact ⟨hname, hexists, hanswer, hother, hstored, hserves,
    (hlater c none .epoch _ [121] hname hother).1⟩

end Client

end ObjectAccess
