import ObjectAccess.Proofs.Access.Tasks
import ObjectAccess.Proofs.Store.Pages

/-!
# Listings by clients

A client that lists all objects asks for one page after the other until a page says nothing of
where to go on.  On any backend this ends with an answer just if the pages that the client asks for
come to a last one, and then it answers the objects of all these pages (`listPages_eq_ok_iff`).

On a store the pages that the client asks for are those of the listing (`follows_of_pages`), and
these have a last one, as every page before it takes away some of the objects that are left.  So
the client comes to an end and answers all that the listing asks for, and its answer for one page
is the start of that (`listing_complete`).
-/

namespace ObjectAccess

set_option autoImplicit false

/-! ## Where a page says to go on -/

namespace ObjectPage

variable {page : ObjectPage} {marker : String}

theorem continuation?_of_last (h : page.isTruncated = false) : page.continuation? = none := by
  rw [continuation?, h]
  rfl

theorem continuation?_of_nextMarker (h : page.isTruncated = true)
    (hmarker : page.nextMarker = some marker) : page.continuation? = some marker := by
  rw [continuation?, h, hmarker]
  rfl

end ObjectPage

/-! ## Any backend -/

namespace Service

section

variable {σ : Type} [Backend σ]

/-- The pages that a client asks a service for, from a request on.  Each but the last one says where
to go on, and the last one does not. -/
inductive Follows : Service σ → ListRequest → List ObjectPage → Service σ → Prop where
  | last {s after : Service σ} {request : ListRequest} {page : ObjectPage}
      (hpage : (onBackend (Backend.list request)).start s = (.ok page, after))
      (hlast : page.continuation? = none) : s.Follows request [page] after
  | next {s middle after : Service σ} {request : ListRequest} {page : ObjectPage}
      {marker : String} {others : List ObjectPage}
      (hpage : (onBackend (Backend.list request)).start s = (.ok page, middle))
      (hmarker : page.continuation? = some marker)
      (hothers : middle.Follows { request with marker := some marker } others after) :
      s.Follows request (page :: others) after

variable {s middle after : Service σ} {request : ListRequest} {page : ObjectPage} {marker : String}
  {objects : List ObjectSummary}

theorem listPages_of_error {fault : Fault}
    (h : (onBackend (Backend.list request)).start s = (.error fault, after)) :
    s.listPages request = some (.error fault, after) := by
  rw [listPages, h]

theorem listPages_of_last
    (hpage : (onBackend (Backend.list request)).start s = (.ok page, after))
    (hlast : page.continuation? = none) : s.listPages request = some (.ok page.objects, after) := by
  rw [listPages, hpage]
  simp only [hlast]

theorem listPages_of_next
    (hpage : (onBackend (Backend.list request)).start s = (.ok page, middle))
    (hmarker : page.continuation? = some marker) :
    s.listPages request =
      (middle.listPages { request with marker := some marker }).map fun (others, last) =>
        (others.map (page.objects ++ ·), last) := by
  rw [listPages, hpage]
  simp only [hmarker]
  cases middle.listPages { request with marker := some marker } <;> rfl

/-- The objects that a client answers are those of pages that it asked for. -/
theorem exists_follows (h : s.listPages request = some (.ok objects, after)) :
    ∃ pages, s.Follows request pages after ∧ objects = pages.flatMap (·.objects) := by
  -- The induction is on the run of the loop: what it finds from the next page on is assumed.
  refine listPages.partial_correctness (fun s request result => ∀ objects,
    result.1 = .ok objects → ∃ pages, s.Follows request pages result.2 ∧
      objects = pages.flatMap (·.objects)) ?_ s request _ h objects rfl
  intro go ih s request result hresult objects hobjects
  cases hpage : (onBackend (Backend.list request)).start s with
  | mk outcome middle =>
      rw [hpage] at hresult
      cases outcome with
      | error fault =>
          cases hresult
          cases hobjects
      | ok page =>
          cases hmarker : page.continuation? with
          | none =>
              simp only [hmarker] at hresult
              cases hresult
              cases hobjects
              exact ⟨[page], .last hpage hmarker, (List.flatMap_singleton ..).symm⟩
          | some marker =>
              simp only [hmarker] at hresult
              obtain ⟨⟨others, last⟩, hothers, hsum⟩ := Option.bind_eq_some_iff.mp hresult
              cases hsum
              obtain ⟨found, rfl, rfl⟩ := map_eq_ok_iff.mp hobjects
              obtain ⟨pages, hpages, rfl⟩ := ih _ _ _ hothers found rfl
              exact ⟨page :: pages, .next hpage hmarker hpages, rfl⟩

/-- **The loop of a client ends with an answer just if its pages come to an end.** -/
theorem listPages_eq_ok_iff :
    s.listPages request = some (.ok objects, after) ↔
      ∃ pages, s.Follows request pages after ∧ objects = pages.flatMap (·.objects) := by
  constructor
  · exact exists_follows
  · rintro ⟨pages, hpages, rfl⟩
    induction hpages with
    | last hpage hlast => rw [listPages_of_last hpage hlast, List.flatMap_singleton]
    | next hpage hmarker _ ih =>
        rw [listPages_of_next hpage hmarker, ih, List.flatMap_cons]
        rfl

end

/-! ## A store -/

section

variable {registry : Registry} {s : Store} {request : ListRequest}

theorem start_backendList (registry : Registry) (s : Store) (request : ListRequest) :
    (onBackend (Backend.list request)).start (⟨registry, s⟩ : Service Store) =
      (s.list request, ⟨registry, s⟩) := rfl

/-- A client asks for the pages of the listing, and leaves the service as it is. -/
theorem follows_of_pages {pages : List ObjectPage} (h : s.Pages request pages) :
    (⟨registry, s⟩ : Service Store).Follows request pages ⟨registry, s⟩ := by
  induction h with
  | last hpage hlast =>
      exact .last (by rw [start_backendList, hpage]) (ObjectPage.continuation?_of_last hlast)
  | next hpage htruncated hmarker _ ih =>
      exact .next (by rw [start_backendList, hpage])
        (ObjectPage.continuation?_of_nextMarker htruncated hmarker) ih

/-- The loop of a client comes to an end, whether or not the bucket exists. -/
theorem listPages_eq (hsize : 1 ≤ request.pageSize) (s : Service Store) :
    s.listPages request = some ((s.backend.bucket request.bucket).map (·.matching request), s) := by
  cases hbucket : s.backend.buckets.get? request.bucket with
  | some b =>
      obtain ⟨pages, hpages⟩ := Store.exists_pages hbucket hsize
      rw [Store.bucket_eq_ok_iff.mpr hbucket]
      exact listPages_eq_ok_iff.mpr
        ⟨pages, follows_of_pages hpages, (hpages.objects_eq hbucket).symm⟩
  | none =>
      have habsent : s.backend.bucket request.bucket = .error (.noSuchBucket request.bucket) := by
        rw [Store.bucket, hbucket]
      have hlist : s.backend.list request = .error (.noSuchBucket request.bucket) := by
        rw [Store.list, habsent]
        rfl
      rw [habsent]
      exact listPages_of_error (by rw [start_backendList, hlist])

theorem start_await_listPages (hsize : 1 ≤ request.pageSize) (s : Service Store) :
    (Task.await (·.listPages request)).start s =
      (((s.backend.bucket request.bucket).map (·.matching request)).map some, s) :=
  Task.start_await (listPages_eq hsize s)

end

end Service

/-! ## Listing the objects under a path -/

namespace Client

/-- What a client asks a backend for to list the objects under a path. -/
def listing (bucket path : String) : ListRequest := { bucket := bucket, keyStart := path }

theorem one_le_pageSize_listing (bucket path : String) : 1 ≤ (listing bucket path).pageSize := by
  show 1 ≤ min maxPageSize maxPageSize
  decide

section

variable {registry : Registry} {s : Store} {b : Bucket} (c : Client) {bucket : Option String}
  {name : String}

theorem start_listAll_of_exists (hname : c.bucket bucket = .ok name)
    (hbucket : s.buckets.get? name = some b) (path : String) :
    (c.listAll bucket path).start (⟨registry, s⟩ : Service Store) =
      (.ok (some (b.matching (listing name path))), ⟨registry, s⟩) := by
  have hpages := Service.start_await_listPages (one_le_pageSize_listing name path)
    (⟨registry, s⟩ : Service Store)
  have hfound : s.bucket (listing name path).bucket = .ok b := Store.bucket_eq_ok_iff.mpr hbucket
  rw [hfound] at hpages
  rw [listAll, start_chosen_bind c hname]
  exact hpages

theorem start_list (hname : c.bucket bucket = .ok name)
    (hbucket : s.buckets.get? name = some b) (path : String) :
    (c.list bucket path).start (⟨registry, s⟩ : Service Store) =
      (.ok ((b.matching (listing name path)).take 1000), ⟨registry, s⟩) := by
  have hpage : (Service.onBackend (Backend.list (listing name path))).start
      (⟨registry, s⟩ : Service Store) = (.ok (b.page (listing name path)), ⟨registry, s⟩) := by
    rw [Service.start_backendList, (Store.list_eq_ok_iff hbucket).mpr rfl]
  rw [list, start_chosen_bind c hname]
  exact Task.start_bind_of_ok hpage _

end

/-! ## Complete listings -/

/-- **Listings are complete.**  In a store that has come about by operations, a listing of a
bucket has a last page, whatever the size of its pages; its pages hold together, in the order of
the octets of the keys and each once, the objects that it asks for, and all but the last are full.
A client that lists all objects under a path asks for finitely many pages, up to one after which it
does not go on, and answers all these objects; one that lists objects answers the first thousand
of them. -/
theorem listing_complete {s : Store} {name : String} (hreachable : s.Reachable)
    (hexists : s.bucketExists name = true) :
    (∀ request : ListRequest, request.bucket = name → 1 ≤ request.maxKeys →
      ∃ pages, s.Pages request pages ∧ (∀ others, s.Pages request others → others = pages) ∧
        s.IsListing request (pages.flatMap (·.objects)) ∧
        ∀ page ∈ pages.dropLast, page.objects.length = min request.maxKeys 1000) ∧
    ∀ (c : Client) (registry : Registry) (bucket : Option String) (path : String),
      c.bucket bucket = .ok name →
      ∃ pages, (⟨registry, s⟩ : Service Store).Follows (listing name path) pages ⟨registry, s⟩ ∧
        s.IsListing (listing name path) (pages.flatMap (·.objects)) ∧
        (c.listAll bucket path).start ⟨registry, s⟩ =
          (.ok (some (pages.flatMap (·.objects))), (⟨registry, s⟩ : Service Store)) ∧
        (c.list bucket path).start ⟨registry, s⟩ =
          (.ok ((pages.flatMap (·.objects)).take 1000), (⟨registry, s⟩ : Service Store)) := by
  obtain ⟨b, hbucket⟩ := Store.bucketExists_iff.mp hexists
  constructor
  · rintro request rfl hsize
    have hpageSize : 1 ≤ request.pageSize := Nat.le_min.mpr ⟨hsize, by decide⟩
    obtain ⟨pages, hpages⟩ := Store.exists_pages hbucket hpageSize
    refine ⟨pages, hpages, fun others => hpages.unique, ?_, hpages.length_objects hbucket⟩
    rw [hpages.objects_eq hbucket]
    exact Store.isListing_matching hreachable hbucket
  · intro c registry bucket path hname
    obtain ⟨pages, hpages⟩ : ∃ pages, s.Pages (listing name path) pages :=
      Store.exists_pages hbucket (one_le_pageSize_listing name path)
    have hobjects : pages.flatMap (·.objects) = b.matching (listing name path) :=
      hpages.objects_eq hbucket
    refine ⟨pages, Service.follows_of_pages hpages, ?_, ?_, ?_⟩
    · rw [hobjects]
      exact Store.isListing_matching hreachable hbucket
    · rw [hobjects]
      exact start_listAll_of_exists c hname hbucket path
    · rw [hobjects]
      exact start_list c hname hbucket path

/-- A run that stores three objects. -/
def threeObjects : List Store.Operation :=
  [.createBucket .epoch "main", .put .epoch "main" "b" [120], .put .epoch "main" "c" [],
    .put .epoch "main" "a" [121]]

/-- The theorem at that run: pages of two objects. -/
theorem listing_complete_threeObjects :
    let s := (Store.empty .standard).runAll threeObjects
    let request : ListRequest := ⟨"main", "", none, 2⟩
    (∃ pages, s.Pages request pages ∧ s.IsListing request (pages.flatMap (·.objects)) ∧
      pages.map (fun page => page.objects.map (·.key)) = [["a", "b"], ["c"]]) ∧
    ∃ objects, s.IsListing (listing "main" "") objects ∧
      ((⟨"main", .standard⟩ : Client).listAll none "").start ⟨.empty, s⟩ =
        (.ok (some objects), (⟨.empty, s⟩ : Service Store)) := by
  intro s request
  have hexists : s.bucketExists "main" = true := rfl
  obtain ⟨hpages, hclients⟩ := listing_complete ⟨.standard, threeObjects, rfl⟩ hexists
  obtain ⟨pages, hpages, hunique, hlisting, -⟩ := hpages request rfl (by decide)
  obtain ⟨_, -, hobjects, hall, -⟩ := hclients ⟨"main", .standard⟩ .empty none "" rfl
  refine ⟨⟨pages, hpages, hlisting, ?_⟩, _, hobjects, hall⟩
  have hlast : s.list (request.after "b") =
      .ok ⟨[StoredObject.summary "c" (.ofBody [] .epoch)], false, none⟩ := rfl
  rw [← hunique _ (.next rfl rfl rfl (.last hlast rfl))]
  rfl

end Client

end ObjectAccess
