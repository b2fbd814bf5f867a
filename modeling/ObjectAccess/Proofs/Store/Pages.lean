import ObjectAccess.Proofs.Store.History
import ObjectAccess.Proofs.Text.Order

/-!
# Pages of a listing

A listing is read page by page, each page going on after the last key of the one before.
The objects that a marker leaves over are the rest of the objects after that key
(`matching_after`), because keys ascend.  So a page and the pages after it hold together what
the listing asks for, in order and each object once (`Pages.objects_eq`), every page but the
last is full, and as no page before the last is empty there is a last one (`exists_pages`).
-/

namespace ObjectAccess

set_option autoImplicit false

open ObjectAccess.Text

/-! ## What a listing asks for -/

/-- The most objects that a page of a request has. -/
def ListRequest.pageSize (request : ListRequest) : Nat := min request.maxKeys maxPageSize

/-- The request for what comes after a key. -/
def ListRequest.after (request : ListRequest) (key : String) : ListRequest :=
  { request with marker := some key }

namespace Bucket

theorem isListed_iff {request : ListRequest} {key : String} :
    isListed request key = true ↔
      request.keyStart.toList <+: key.toList ∧ ∀ marker ∈ request.marker, marker < key := by
  rw [isListed, Bool.and_eq_true, List.isPrefixOf_iff_prefix]
  cases request.marker with
  | none => simp
  | some marker => simp

variable (b : Bucket) (request : ListRequest)

theorem mem_matching {x : ObjectSummary} :
    x ∈ b.matching request ↔
      ∃ o, b.objects.get? x.key = some o ∧ isListed request x.key = true ∧
        x = o.summary x.key := by
  rw [matching, List.mem_map]
  constructor
  · rintro ⟨⟨key, o⟩, hentry, rfl⟩
    obtain ⟨hmem, hlisted⟩ := List.mem_filter.mp hentry
    exact ⟨o, (Directory.get?_eq_some_iff _).mpr hmem, hlisted, rfl⟩
  · rintro ⟨o, hget, hlisted, hx⟩
    exact ⟨(x.key, o), List.mem_filter.mpr ⟨(Directory.get?_eq_some_iff _).mp hget, hlisted⟩,
      hx.symm⟩

/-- The keys of a listing ascend. -/
theorem pairwise_matching : (b.matching request).Pairwise fun x y => x.key < y.key := by
  rw [matching, List.pairwise_map]
  exact b.objects.ascending.filter _

/-- After a key of the listing, those objects are left over whose keys are larger. -/
theorem matching_after_eq_filter {key : String} (h : isListed request key = true) :
    b.matching (request.after key) = (b.matching request).filter fun x => decide (key < x.key) := by
  have hlisted : ∀ other, isListed (request.after key) other =
      (decide (key < other) && isListed request other) := by
    intro other
    rw [Bool.eq_iff_iff, Bool.and_eq_true, decide_eq_true_iff, isListed_iff, isListed_iff]
    obtain ⟨-, hafter⟩ := isListed_iff.mp h
    constructor
    · rintro ⟨hstart, hmarker⟩
      have hlt : key < other := hmarker key rfl
      exact ⟨hlt, hstart, fun marker hm => String.lt_trans (hafter marker hm) hlt⟩
    · rintro ⟨hlt, hstart, -⟩
      refine ⟨hstart, fun marker hm => ?_⟩
      obtain rfl : key = marker := Option.some.inj hm
      exact hlt
  rw [matching, matching, List.filter_map, List.filter_filter]
  congr 2
  funext e
  exact hlisted e.1

/-- After one of its objects, a listing goes on with the next one. -/
theorem matching_after {front rest : List ObjectSummary} {x : ObjectSummary}
    (h : b.matching request = front ++ x :: rest) : b.matching (request.after x.key) = rest := by
  have hordered := b.pairwise_matching request
  rw [h, List.pairwise_append, List.pairwise_cons] at hordered
  obtain ⟨-, ⟨hrest, -⟩, hfront⟩ := hordered
  obtain ⟨-, -, hlisted, -⟩ := (b.mem_matching request).mp (h ▸ by simp : x ∈ b.matching request)
  have hbefore : front.filter (fun y => decide (x.key < y.key)) = [] := by
    rw [List.filter_eq_nil_iff]
    intro y hy
    simpa using String.lt_asymm (hfront y hy x (List.mem_cons_self ..))
  have hafter : (x :: rest).filter (fun y => decide (x.key < y.key)) = rest := by
    rw [List.filter_cons_of_neg (by simp), List.filter_eq_self]
    exact fun y hy => decide_eq_true (hrest y hy)
  rw [matching_after_eq_filter b request hlisted, h, List.filter_append, hbefore, hafter,
    List.nil_append]

/-! ## One page -/

theorem objects_page : (b.page request).objects = (b.matching request).take request.pageSize := rfl

theorem isTruncated_page :
    (b.page request).isTruncated = true ↔ request.pageSize < (b.matching request).length := by
  have hempty : (b.page request).isTruncated =
      !((b.matching request).drop request.pageSize).isEmpty := rfl
  rw [hempty, Bool.not_eq_true', List.isEmpty_eq_false_iff, ne_eq, List.drop_eq_nil_iff, not_le]

/-- The marker of a page is the key of its last object. -/
theorem nextMarker_page {marker : String} :
    (b.page request).nextMarker = some marker ↔ (b.page request).isTruncated = true ∧
      ∃ x, (b.page request).objects.getLast? = some x ∧ x.key = marker := by
  have hmarker : (b.page request).nextMarker = if (b.page request).isTruncated then
      (b.page request).objects.getLast?.map (·.key) else none := rfl
  rw [hmarker]
  cases (b.page request).isTruncated <;> simp

/-- A truncated page that is not empty has a marker. -/
theorem exists_nextMarker_page (hsize : 1 ≤ request.pageSize)
    (h : (b.page request).isTruncated = true) :
    ∃ marker, (b.page request).nextMarker = some marker := by
  have hlength := (b.isTruncated_page request).mp h
  have hobjects : (b.page request).objects ≠ [] := by
    rw [objects_page, ne_eq, List.take_eq_nil_iff, not_or]
    exact ⟨by omega, List.ne_nil_of_length_pos (by omega)⟩
  exact ⟨_, (b.nextMarker_page request).mpr ⟨h, _, List.getLast?_eq_some_getLast hobjects, rfl⟩⟩

/-- After the marker of a page, what did not fit on the page is left. -/
theorem matching_after_nextMarker {marker : String}
    (h : (b.page request).nextMarker = some marker) :
    b.matching (request.after marker) = (b.matching request).drop request.pageSize := by
  obtain ⟨-, x, hlast, rfl⟩ := (b.nextMarker_page request).mp h
  obtain ⟨front, hfront⟩ := List.getLast?_eq_some_iff.mp hlast
  have hsplit : b.matching request = front ++ x :: (b.matching request).drop request.pageSize :=
    calc b.matching request
      _ = (b.page request).objects ++ (b.matching request).drop request.pageSize :=
          (List.take_append_drop _ _).symm
      _ = front ++ x :: (b.matching request).drop request.pageSize := by
          rw [hfront, List.append_assoc, List.singleton_append]
  exact b.matching_after request hsplit

end Bucket

/-! ## All pages -/

namespace Store

/-- The pages of a listing: a truncated page is followed by those that go on after its marker, and
the first page that is not truncated is the last one. -/
inductive Pages (s : Store) : ListRequest → List ObjectPage → Prop where
  | last {request : ListRequest} {page : ObjectPage} (hpage : s.list request = .ok page)
      (hlast : page.isTruncated = false) : Pages s request [page]
  | next {request : ListRequest} {page : ObjectPage} {marker : String}
      {others : List ObjectPage} (hpage : s.list request = .ok page)
      (htruncated : page.isTruncated = true) (hmarker : page.nextMarker = some marker)
      (hothers : Pages s (request.after marker) others) : Pages s request (page :: others)

variable {s : Store} {request : ListRequest} {b : Bucket} {pages : List ObjectPage}

theorem list_eq_ok_iff {page : ObjectPage} (hbucket : s.buckets.get? request.bucket = some b) :
    s.list request = .ok page ↔ b.page request = page := by
  have hlist : s.list request = .ok (b.page request) :=
    bind_eq_ok_iff.mpr ⟨b, bucket_eq_ok_iff.mpr hbucket, rfl⟩
  rw [hlist, Except.ok.injEq]

theorem Pages.ne_nil (h : s.Pages request pages) : pages ≠ [] := by
  cases h <;> exact List.cons_ne_nil _ _

/-- The pages of a listing are determined. -/
theorem Pages.unique {others : List ObjectPage} (h : s.Pages request pages)
    (hothers : s.Pages request others) : others = pages := by
  induction h generalizing others with
  | last hpage hlast =>
      cases hothers with
      | last hpage' _ => rw [Except.ok.inj (hpage'.symm.trans hpage)]
      | next hpage' htruncated _ _ =>
          rw [Except.ok.inj (hpage'.symm.trans hpage), hlast] at htruncated
          cases htruncated
  | next hpage htruncated hmarker _ ih =>
      cases hothers with
      | last hpage' hlast =>
          rw [Except.ok.inj (hpage'.symm.trans hpage), htruncated] at hlast
          cases hlast
      | next hpage' _ hmarker' hrest =>
          obtain rfl := Except.ok.inj (hpage'.symm.trans hpage)
          obtain rfl := Option.some.inj (hmarker'.symm.trans hmarker)
          rw [ih hrest]

/-- Every listing of a bucket comes to its last page. -/
theorem exists_pages (hbucket : s.buckets.get? request.bucket = some b)
    (hsize : 1 ≤ request.pageSize) : ∃ pages, s.Pages request pages := by
  -- The induction is on how many objects are left; a full page takes at least one of them.
  induction hleft : (b.matching request).length using Nat.strong_induction_on
    generalizing request with
  | _ left ih =>
      have hpage : s.list request = .ok (b.page request) := (list_eq_ok_iff hbucket).mpr rfl
      cases htruncated : (b.page request).isTruncated with
      | false => exact ⟨_, .last hpage htruncated⟩
      | true =>
          obtain ⟨marker, hmarker⟩ := b.exists_nextMarker_page request hsize htruncated
          have hlength := (b.isTruncated_page request).mp htruncated
          have hless : (b.matching (request.after marker)).length < left := by
            rw [b.matching_after_nextMarker request hmarker, List.length_drop]
            omega
          have hexists : ∃ others, s.Pages (request.after marker) others :=
            ih _ hless hbucket hsize rfl
          obtain ⟨others, hothers⟩ := hexists
          exact ⟨_, .next hpage htruncated hmarker hothers⟩

/-- The pages hold together what the listing asks for. -/
theorem Pages.objects_eq (h : s.Pages request pages)
    (hbucket : s.buckets.get? request.bucket = some b) :
    pages.flatMap (·.objects) = b.matching request := by
  induction h with
  | @last request page hpage hlast =>
      obtain rfl := (list_eq_ok_iff hbucket).mp hpage
      have hfits : ¬request.pageSize < (b.matching request).length := by
        rw [← b.isTruncated_page request, hlast]
        exact Bool.false_ne_true
      rw [List.flatMap_singleton, b.objects_page, List.take_of_length_le (Nat.le_of_not_lt hfits)]
  | @next request page marker others hpage htruncated hmarker _ ih =>
      obtain rfl := (list_eq_ok_iff hbucket).mp hpage
      rw [List.flatMap_cons, ih hbucket, b.matching_after_nextMarker request hmarker,
        b.objects_page, List.take_append_drop]

/-- Every page but the last is full. -/
theorem Pages.length_objects (h : s.Pages request pages)
    (hbucket : s.buckets.get? request.bucket = some b) :
    ∀ page ∈ pages.dropLast, page.objects.length = request.pageSize := by
  induction h with
  | last _ _ => nofun
  | @next request page marker others hpage htruncated hmarker hothers ih =>
      obtain rfl := (list_eq_ok_iff hbucket).mp hpage
      have hlength := (b.isTruncated_page request).mp htruncated
      rw [List.dropLast_cons_of_ne_nil hothers.ne_nil, List.forall_mem_cons]
      refine ⟨?_, ih hbucket⟩
      rw [b.objects_page, List.length_take]
      omega

/-! ## Complete listings -/

/-- Whether objects are what a listing asks for: those whose keys start with its text and come
after its marker, each once and in the order of the octets of the keys, with the size and the tag
of their bodies. -/
structure IsListing (s : Store) (request : ListRequest) (objects : List ObjectSummary) :
    Prop where
  ascending : objects.Pairwise fun x y => octets x.key.toList < octets y.key.toList
  mem_iff : ∀ x, x ∈ objects ↔
    (request.keyStart.toList <+: x.key.toList ∧
      ∀ marker ∈ request.marker, octets marker.toList < octets x.key.toList) ∧
    ∃ o, s.object? ⟨request.bucket, x.key⟩ = some o ∧ x.size = o.body.length ∧
      x.etag = entityTag o.body ∧ x.modifiedAt = o.modifiedAt

theorem isListing_matching (hreachable : s.Reachable)
    (hbucket : s.buckets.get? request.bucket = some b) :
    s.IsListing request (b.matching request) where
  ascending := (b.pairwise_matching request).imp fun h =>
    octets_lt_octets (String.lt_iff_toList_lt.mp h)
  mem_iff x := by
    have hobject : s.object? ⟨request.bucket, x.key⟩ = b.objects.get? x.key :=
      object?_of_get? hbucket
    simp only [b.mem_matching, Bucket.isListed_iff, octets_lt_octets_iff,
      ← String.lt_iff_toList_lt, hobject]
    constructor
    · rintro ⟨o, hget, hlisted, hx⟩
      obtain ⟨now, ho⟩ := hreachable.eq_ofBody (hobject.trans hget)
      refine ⟨hlisted, o, hget, ?_, ?_, ?_⟩
      · rw [hx]; rfl
      · rw [hx, ho]; rfl
      · rw [hx]; rfl
    · rintro ⟨hlisted, o, hget, hsize, hetag, hmodified⟩
      obtain ⟨now, ho⟩ := hreachable.eq_ofBody (hobject.trans hget)
      refine ⟨o, hget, hlisted, ?_⟩
      obtain ⟨key, size, modifiedAt, etag⟩ := x
      obtain rfl := hsize
      obtain rfl := hetag
      obtain rfl := hmodified
      rw [StoredObject.summary, ObjectSummary.mk.injEq]
      exact ⟨rfl, rfl, rfl, by rw [ho]; rfl⟩

end Store

end ObjectAccess
