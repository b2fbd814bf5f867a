import ObjectAccess.Proofs.Store.Pages

/-!
# How a listing goes on

A page takes the first of the keys that its request asks for, and the keys ascend, so the others
come after the last key of the page.  Whether there are others is what the page says by being
truncated, and its marker is its last key (`exists_continued_page`).  The request with that marker
asks for exactly the keys that are missing on the page.

Only a page with a key can have a marker.  A request for a page without keys is answered with a
truncated page from which a listing cannot go on (`not_continued_emptyPage`).
-/

namespace ObjectAccess

set_option autoImplicit false

/-- The keys on a page. -/
def ObjectPage.keys (page : ObjectPage) : List String := page.objects.map (·.key)

/-! ## Keys that did not fit -/

/-- In a list without repetitions, what comes after a front is what is not in it. -/
theorem mem_drop_iff_of_nodup {α : Type} {l : List α} (h : l.Nodup) (n : Nat) {x : α} :
    x ∈ l.drop n ↔ x ∈ l ∧ x ∉ l.take n := by
  constructor
  · intro hx
    exact ⟨List.mem_of_mem_drop hx, fun hfront => List.disjoint_take_drop h le_rfl hfront hx⟩
  · rintro ⟨hx, hfront⟩
    rw [← List.take_append_drop n l, List.mem_append] at hx
    exact hx.resolve_left hfront

namespace Bucket

variable (b : Bucket) (request : ListRequest)

/-- The keys of a listing. -/
def keysFor : List String := (b.matching request).map (·.key)

theorem nodup_keysFor : (b.keysFor request).Nodup := by
  rw [keysFor, List.Nodup, List.pairwise_map]
  refine (b.pairwise_matching request).imp fun hlt => ?_
  exact fun heq => String.lt_irrefl _ (heq ▸ hlt)

theorem keys_page : (b.page request).keys = (b.keysFor request).take request.pageSize := by
  rw [ObjectPage.keys, objects_page, List.map_take, keysFor]

/-- A key is left over if it belongs to the listing and is not on the page. -/
theorem mem_drop_keysFor_iff {key : String} :
    key ∈ (b.keysFor request).drop request.pageSize ↔
      key ∈ b.keysFor request ∧ key ∉ (b.page request).keys := by
  rw [mem_drop_iff_of_nodup (b.nodup_keysFor request), keys_page]

theorem isTruncated_iff_exists_key :
    (b.page request).isTruncated = true ↔
      ∃ key, key ∈ b.keysFor request ∧ key ∉ (b.page request).keys := by
  have hrest : (b.page request).isTruncated = true ↔
      (b.keysFor request).drop request.pageSize ≠ [] := by
    rw [isTruncated_page, ne_eq, List.drop_eq_nil_iff, not_le, keysFor, List.length_map]
  simp only [hrest, ← mem_drop_keysFor_iff]
  exact ⟨List.exists_mem_of_ne_nil _, fun ⟨_, hkey⟩ => List.ne_nil_of_mem hkey⟩

/-- The request with the marker of a page asks for the keys that are left over. -/
theorem keysFor_after_nextMarker {marker : String}
    (h : (b.page request).nextMarker = some marker) :
    b.keysFor (request.after marker) = (b.keysFor request).drop request.pageSize := by
  rw [keysFor, b.matching_after_nextMarker request h, List.map_drop, keysFor]

/-- A truncated page has a marker just if keys may stand on it. -/
theorem isSome_nextMarker_page :
    (b.page request).nextMarker.isSome = true ↔
      (b.page request).isTruncated = true ∧ 1 ≤ request.pageSize := by
  rw [Option.isSome_iff_exists]
  constructor
  · rintro ⟨marker, hmarker⟩
    obtain ⟨htruncated, x, hlast, -⟩ := (b.nextMarker_page request).mp hmarker
    refine ⟨htruncated, Nat.one_le_iff_ne_zero.mpr fun hzero => ?_⟩
    rw [objects_page, hzero, List.take_zero] at hlast
    cases hlast
  · rintro ⟨htruncated, hsize⟩
    exact b.exists_nextMarker_page request hsize htruncated

end Bucket

/-! ## The next page -/

namespace Store

/-- Whether a store holds a key that a request asks for: it starts with the text of the request and
comes after its marker. -/
def HoldsFor (s : Store) (request : ListRequest) (key : String) : Prop :=
  (∃ o, s.object? ⟨request.bucket, key⟩ = some o) ∧
    request.keyStart.toList <+: key.toList ∧ ∀ marker ∈ request.marker, marker < key

theorem mem_keysFor_iff {s : Store} {request : ListRequest} {b : Bucket} {key : String}
    (hbucket : s.buckets.get? request.bucket = some b) :
    key ∈ b.keysFor request ↔ s.HoldsFor request key := by
  have hobject : s.object? ⟨request.bucket, key⟩ = b.objects.get? key := object?_of_get? hbucket
  rw [HoldsFor, hobject, ← Bucket.isListed_iff, Bucket.keysFor, List.mem_map]
  simp only [b.mem_matching]
  constructor
  · rintro ⟨x, ⟨o, hget, hlisted, -⟩, rfl⟩
    exact ⟨⟨o, hget⟩, hlisted⟩
  · rintro ⟨⟨o, hget⟩, hlisted⟩
    exact ⟨o.summary key, ⟨o, hget, hlisted, rfl⟩, rfl⟩

/-- **A listing can go on after a page that holds a key.**  A page is truncated just if a key is
missing that its request asks for.  It has a marker just if it is truncated and the request wants
keys at all.  The marker is the last key of the page, and the request with it asks for exactly the
keys that are missing. -/
theorem exists_continued_page {s : Store} {request : ListRequest}
    (hexists : s.bucketExists request.bucket = true) :
    ∃ page, s.list request = .ok page ∧
      page.keys.length ≤ min request.maxKeys 1000 ∧
      (∀ key ∈ page.keys, s.HoldsFor request key) ∧
      (page.isTruncated = true ↔ ∃ key, s.HoldsFor request key ∧ key ∉ page.keys) ∧
      (page.nextMarker.isSome = true ↔ page.isTruncated = true ∧ 1 ≤ request.maxKeys) ∧
      ∀ marker, page.nextMarker = some marker → page.keys.getLast? = some marker ∧
        ∀ key, s.HoldsFor (request.after marker) key ↔
          s.HoldsFor request key ∧ key ∉ page.keys := by
  obtain ⟨b, hbucket⟩ := bucketExists_iff.mp hexists
  simp only [← mem_keysFor_iff hbucket]
  refine ⟨b.page request, (list_eq_ok_iff hbucket).mpr rfl, ?_, ?_,
    b.isTruncated_iff_exists_key request, ?_, fun marker hmarker => ⟨?_, fun key => ?_⟩⟩
  · rw [b.keys_page, List.length_take]
    exact min_le_left _ _
  · rw [b.keys_page]
    exact fun key => List.mem_of_mem_take
  · have hsize : 1 ≤ request.pageSize ↔ 1 ≤ request.maxKeys := by
      unfold ListRequest.pageSize maxPageSize
      omega
    rw [b.isSome_nextMarker_page, hsize]
  · obtain ⟨-, x, hlast, rfl⟩ := (b.nextMarker_page request).mp hmarker
    rw [ObjectPage.keys, List.getLast?_map, hlast, Option.map_some]
  · have hafter : s.buckets.get? (request.after marker).bucket = some b := hbucket
    rw [← mem_keysFor_iff hafter, b.keysFor_after_nextMarker request hmarker,
      b.mem_drop_keysFor_iff]

/-- A run that stores one object. -/
def oneObject : List Operation :=
  [.createBucket .epoch "main", .put .epoch "main" "a" [120]]

/-- The theorem at that run and one more object: a page of one object. -/
theorem exists_continued_page_firstOfTwo :
    let s := (Store.empty .standard).runAll (oneObject ++ [.put .epoch "main" "b" []])
    ∃ page, s.list ⟨"main", "", none, 1⟩ = .ok page ∧ page.keys = ["a"] ∧
      page.nextMarker = some "a" ∧
      ∀ key, s.HoldsFor ⟨"main", "", some "a", 1⟩ key ↔
        s.HoldsFor ⟨"main", "", none, 1⟩ key ∧ key ≠ "a" := by
  intro s
  have hexists : s.bucketExists "main" = true := rfl
  obtain ⟨page, hpage, -, -, -, -, hmarker⟩ :=
    @exists_continued_page s ⟨"main", "", none, 1⟩ hexists
  obtain ⟨hkeys, hnext⟩ : page.keys = ["a"] ∧ page.nextMarker = some "a" := by
    cases hpage
    exact ⟨rfl, rfl⟩
  refine ⟨page, hpage, hkeys, hnext, fun key => ?_⟩
  have hrest := (hmarker "a" hnext).2 key
  rwa [hkeys, List.mem_singleton] at hrest

/-- A truncated page has no marker if there is no place for a key on it. -/
theorem not_continued_emptyPage :
    ∃ page, ((Store.empty .standard).runAll oneObject).list ⟨"main", "", none, 0⟩ = .ok page ∧
      page.isTruncated = true ∧ page.nextMarker = none :=
  ⟨_, rfl, rfl, rfl⟩

end Store

end ObjectAccess
