import ObjectAccess.Proofs.Access.Requests
import ObjectAccess.Proofs.Signing.RoundTrip
import ObjectAccess.Proofs.Store.PlainUrl

/-!
# What the resolver answers

Over a store the resolver answers at once: a plain URL if the registry says that the path is
public (`start_url_of_isPublic`), and otherwise what it answers for a signed URL
(`start_url_of_not_isPublic`), which is the URL that the store signs until the expiry
(`start_signedUrl`).  Of the store it needs nothing but the configuration
(`start_url_of_config_eq`).

The two kinds of URL are never the same text.  After the last slash a signed URL has a question
mark, and a plain one has not, as the marks of a key are escaped (`presign_ne_plainUrl`).  So the
plain URL is the answer just if the path is public (`start_url_eq_plain_iff`).
-/

namespace ObjectAccess

set_option autoImplicit false

open ObjectAccess.Time ObjectAccess.Signing ObjectAccess.Url

namespace Resolver

variable (r : Resolver) (place : ObjectLocation) (expiresAt : Option Instant) (now : Instant)

theorem start_signedUrl (s : Service Store) :
    (r.signedUrl place expiresAt now).start s =
      ((r.expiry expiresAt now).bind fun t =>
        (s.backend.presign place now t).map fun url => ⟨url, .signed t⟩, s) := by
  have hpresign : ∀ t, (Service.onBackend (Backend.presign place now t)).start s =
      (s.backend.presign place now t, s) := fun _ => rfl
  rw [signedUrl, Task.start_bind, Task.start_look]
  cases r.expiry expiresAt now with
  | error fault => rfl
  | ok t =>
      simp only [Task.start_bind, hpresign]
      cases hurl : s.backend.presign place now t with
      | error fault => simp [Except.bind, Except.map, hurl]
      | ok url => simp [Except.bind, Except.map, hurl]

theorem start_url_of_isPublic {s : Service Store}
    (h : s.registry.isPublic place.bucket place.key = true) :
    (r.url place expiresAt now).start s = (.ok ⟨s.backend.plainUrl place, .free⟩, s) := by
  rw [url, Task.start_bind, Task.start_look, h]
  rfl

theorem start_url_of_not_isPublic {s : Service Store}
    (h : s.registry.isPublic place.bucket place.key = false) :
    (r.url place expiresAt now).start s = (r.signedUrl place expiresAt now).start s := by
  rw [url, Task.start_bind, Task.start_look, h]
  rfl

/-- A URL that the resolver calls signed is one that the store has signed until the expiry. -/
theorem presign_of_start_signedUrl {s : Service Store} {resolved : ResolvedUrl}
    (h : ((r.signedUrl place expiresAt now).start s).1 = .ok resolved) :
    ∃ t, r.expiry expiresAt now = .ok t ∧ resolved.access = .signed t ∧
      s.backend.presign place now t = .ok resolved.url := by
  rw [start_signedUrl] at h
  obtain ⟨t, ht, hmap⟩ := bind_eq_ok_iff.mp h
  obtain ⟨url, hurl, rfl⟩ := map_eq_ok_iff.mp hmap
  exact ⟨t, ht, rfl, hurl⟩

/-- Nothing of a store but its configuration has to do with the answer. -/
theorem start_url_of_config_eq {s t : Store} (h : t.config = s.config) (registry : Registry) :
    ((r.url place expiresAt now).start ⟨registry, t⟩).1 =
      ((r.url place expiresAt now).start ⟨registry, s⟩).1 := by
  have hplain : t.plainUrl place = s.plainUrl place := by
    rw [Store.plainUrl, Store.plainUrl, h]
  have hpresign : t.presign place now = s.presign place now := by
    funext deadline
    rw [Store.presign, Store.presign, Store.presignRequest, Store.presignRequest, h]
  cases hpublic : registry.isPublic place.bucket place.key with
  | true =>
      rw [start_url_of_isPublic r place expiresAt now hpublic,
        start_url_of_isPublic r place expiresAt now hpublic, hplain]
  | false =>
      rw [start_url_of_not_isPublic r place expiresAt now hpublic,
        start_url_of_not_isPublic r place expiresAt now hpublic, start_signedUrl, start_signedUrl,
        hpresign]

end Resolver

/-! ## Signed URLs are not plain -/

/-- Two texts differ if the part after a mark in one holds no slash, and the other ends with a part
that holds a slash but not the mark. -/
theorem append_mark_ne {front query start path : List Char} (hquery : '/' ∉ query)
    (hslash : '/' ∈ path) (hmark : '?' ∉ path) : front ++ '?' :: query ≠ start ++ path := by
  intro h
  rcases List.append_eq_append_iff.mp h with ⟨between, -, hbetween⟩ | ⟨between, -, hpath⟩
  · cases between with
    | nil =>
        rw [List.nil_append] at hbetween
        exact hmark (hbetween ▸ List.mem_cons_self ..)
    | cons c others =>
        obtain ⟨-, hothers⟩ := List.cons.inj hbetween
        exact hquery (hothers ▸ List.mem_append_right others hslash)
  · exact hmark (hpath ▸ List.mem_append_right between (List.mem_cons_self ..))

/-- The query of a signed URL holds no slash. -/
theorem Signing.PresignRequest.slash_not_mem_signedQuery (r : PresignRequest)
    {signature : List Char} (h : ∀ c ∈ signature, Percent.isUnreserved c = true) :
    '/' ∉ r.signedQuery signature := by
  have hnames : ∀ name ∈ parameterNames, '/' ∉ name := by decide
  intro hc
  rw [r.signedQuery_eq h] at hc
  rcases Text.mem_join hc with hsep | ⟨text, htext, hc⟩
  · cases hsep
  · obtain ⟨p, hp, rfl⟩ := List.mem_map.mp htext
    rcases List.mem_append.mp hc with hname | hvalue
    · exact hnames p.1 (name_mem_parameterNames hp) hname
    · rcases List.mem_cons.mp hvalue with hequals | hvalue
      · cases hequals
      · exact Percent.not_mem_encode (by decide) (by decide) p.2 hvalue

/-- The path of a plain URL holds a slash and no question mark. -/
theorem objectPath_encoded (place : ObjectLocation) :
    '/' ∈ Percent.encodePath (Store.objectPath place).toList ∧
      '?' ∉ Percent.encodePath (Store.objectPath place).toList := by
  constructor
  · rw [Store.toList_objectPath, Percent.encodePath_slash]
    exact List.mem_cons_self ..
  · intro h
    exact ((Percent.IsWrittenPath.encodePath _).forall_mem _ h).1 rfl

namespace Store

variable {s : Store} {place : ObjectLocation} {signedAt expiresAt : Instant} {url : String}

/-- A URL that a store signs is signed for what the store asks. -/
theorem presigned_of_presign (h : s.presign place signedAt expiresAt = .ok url) :
    Signing.presign (s.presignRequest place signedAt expiresAt) = .ok url := by
  cases hpresign : Signing.presign (s.presignRequest place signedAt expiresAt) with
  | error e =>
      rw [Store.presign, hpresign] at h
      cases h
  | ok signed =>
      rw [Store.presign, hpresign] at h
      cases h
      rfl

/-- A signed URL is never the plain one. -/
theorem presign_ne_plainUrl (h : s.presign place signedAt expiresAt = .ok url) :
    url ≠ s.plainUrl place := by
  intro hplain
  obtain ⟨-, endpoint, host, -, -, hurl⟩ := presign_eq_ok_iff.mp (presigned_of_presign h)
  rw [← hurl, Store.plainUrl, String.ofList_inj, PresignRequest.url_eq] at hplain
  obtain ⟨hslash, hmark⟩ := objectPath_encoded place
  refine append_mark_ne ?_ hslash hmark hplain
  apply PresignRequest.slash_not_mem_signedQuery
  intro c hc
  exact PresignRequest.isUnreserved_of_mem_signatureFor hc

end Store

/-! ## Public or signed -/

namespace Resolver

variable (r : Resolver) (place : ObjectLocation) (expiresAt : Option Instant) (now : Instant)
  {s : Service Store}

/-- For a path that is not public the answer is the one for a signed URL, and no plain URL. -/
theorem start_url_private (h : s.registry.isPublic place.bucket place.key = false) :
    ((r.url place expiresAt now).start s).1 = ((r.signedUrl place expiresAt now).start s).1 ∧
      ∀ resolved, ((r.url place expiresAt now).start s).1 = .ok resolved →
        (∃ t, resolved.access = .signed t) ∧ resolved.url ≠ s.backend.plainUrl place := by
  rw [start_url_of_not_isPublic r place expiresAt now h]
  refine ⟨rfl, fun resolved hresolved => ?_⟩
  obtain ⟨t, -, haccess, hurl⟩ := r.presign_of_start_signedUrl place expiresAt now hresolved
  exact ⟨⟨t, haccess⟩, Store.presign_ne_plainUrl hurl⟩

/-- The answer is a plain URL just if the registry says that the path is public. -/
theorem start_url_eq_plain_iff :
    ((r.url place expiresAt now).start s).1 = .ok ⟨s.backend.plainUrl place, .free⟩ ↔
      s.registry.isPublic place.bucket place.key = true := by
  constructor
  · intro hplain
    by_contra hprivate
    rw [Bool.not_eq_true] at hprivate
    obtain ⟨-, hother⟩ := (r.start_url_private place expiresAt now hprivate).2 _ hplain
    exact hother rfl
  · intro hpublic
    rw [start_url_of_isPublic r place expiresAt now hpublic]

end Resolver

end ObjectAccess
