import ObjectAccess.Proofs.Access.Validity
import ObjectAccess.Proofs.Time.Lifetime

/-!
# For how long the resolver signs

The expiry of a signed URL is computed in two steps that know nothing of each other.  The resolver
adds its lifetime to the time of signing, if no expiry is wanted, and the store takes the distance
from the time of signing to the expiry, in whole seconds.  The distance is the lifetime again,
so the store sees the seconds that the resolver was made with, and it signs if they are from one
second to seven days.  What the resolver does not sign it refuses as an invalid request
(`signsUntil_iff`).
-/

namespace ObjectAccess

set_option autoImplicit false

open ObjectAccess.Time ObjectAccess.Signing ObjectAccess.Url

/-! ## What a store signs -/

/-- Whether URLs can be signed for an endpoint. -/
def Signing.AcceptsEndpoint (endpoint : String) : Prop :=
  ∃ r url, r.endpoint = endpoint ∧ presign r = .ok url

/-- Whether a fault says that the request is not valid. -/
def Fault.IsInvalidRequest (fault : Fault) : Prop :=
  fault.kind = .invalidRequest ∧ fault.status = 400

/-- A URL is signed for an endpoint that is accepted just if its validity is allowed. -/
theorem Signing.AcceptsEndpoint.exists_presign_iff {r : PresignRequest}
    (h : AcceptsEndpoint r.endpoint) :
    (∃ url, presign r = .ok url) ↔ isExpiry r.expiresIn = true := by
  obtain ⟨accepted, _, hsame, hsigned⟩ := h
  obtain ⟨-, endpoint, host, hread, hhost, -⟩ := presign_eq_ok_iff.mp hsigned
  rw [hsame] at hread
  constructor
  · rintro ⟨url, hurl⟩
    exact (presign_eq_ok_iff.mp hurl).1
  · intro hexpiry
    exact ⟨_, presign_eq_ok_iff.mpr ⟨hexpiry, endpoint, host, hread, hhost, rfl⟩⟩

/-- Signing only fails because of the request. -/
theorem Signing.isInvalidRequest_of_presign {r : PresignRequest} {e : SigningError}
    (h : presign r = .error e) : e.toFault.IsInvalidRequest := by
  unfold presign at h
  split at h
  · cases h
    exact ⟨rfl, rfl⟩
  · split at h
    · cases h
      exact ⟨rfl, rfl⟩
    · split at h
      · cases h
        exact ⟨rfl, rfl⟩
      · cases h

namespace Store

variable {s : Store} {place : ObjectLocation} {now t : Instant}

theorem exists_presign_iff (h : AcceptsEndpoint s.config.endpoint) :
    (∃ url, s.presign place now t = .ok url) ↔ isExpiry (t.wholeSecondsSince now) = true := by
  refine Iff.trans ?_ (AcceptsEndpoint.exists_presign_iff (r := s.presignRequest place now t) h)
  constructor
  · rintro ⟨url, hurl⟩
    exact ⟨url, presigned_of_presign hurl⟩
  · rintro ⟨url, hurl⟩
    rw [presign, hurl]
    exact ⟨url, rfl⟩

theorem isInvalidRequest_of_presign {fault : Fault} (h : s.presign place now t = .error fault) :
    fault.IsInvalidRequest := by
  cases hpresign : Signing.presign (s.presignRequest place now t) with
  | ok url =>
      rw [presign, hpresign] at h
      cases h
  | error e =>
      rw [presign, hpresign] at h
      cases h
      exact Signing.isInvalidRequest_of_presign hpresign

end Store

/-! ## What the resolver answers -/

namespace Service

/-- Whether a service answers with a URL that its store has signed until an instant. -/
def SignsUntil (service : Service Store) (place : ObjectLocation) (now t : Instant)
    (task : Task (Service Store) ResolvedUrl) : Prop :=
  ∃ url, service.backend.presign place now t = .ok url ∧
    task.start service = (.ok ⟨url, .signed t⟩, service)

/-- Whether a service refuses a task as an invalid request. -/
def Refuses (service : Service Store) (task : Task (Service Store) ResolvedUrl) : Prop :=
  ∃ fault, task.start service = (.error fault, service) ∧ fault.IsInvalidRequest

end Service

namespace Resolver

variable {service : Service Store} {place : ObjectLocation} {now t : Instant}
  {wanted : Option Instant} {r : Resolver}

/-- The resolver fails to find an expiry only because of its lifetime. -/
theorem isInvalidRequest_of_expiry {fault : Fault} (h : r.expiry wanted now = .error fault) :
    fault.IsInvalidRequest := by
  unfold expiry at h
  cases wanted with
  | some t => cases h
  | none =>
      cases hadd : now.add? r.lifetime with
      | some t =>
          simp only [hadd] at h
          cases h
      | none =>
          simp only [hadd] at h
          cases h
          exact ⟨rfl, rfl⟩

theorem expiry_some_eq_ok_iff {u : Instant} : r.expiry (some u) now = .ok t ↔ t = u := by
  rw [expiry, Except.ok.injEq, eq_comm]

theorem expiry_none_eq_ok_iff : r.expiry none now = .ok t ↔ now.add? r.lifetime = some t := by
  unfold expiry
  cases now.add? r.lifetime <;> simp

/-- For a path that is not public the service signs until the expiry, if so much validity is
allowed. -/
theorem signsUntil_url_iff (hendpoint : AcceptsEndpoint service.backend.config.endpoint)
    (hprivate : service.registry.isPublic place.bucket place.key = false) :
    service.SignsUntil place now t (r.url place wanted now) ↔
      r.expiry wanted now = .ok t ∧ isExpiry (t.wholeSecondsSince now) = true := by
  rw [← Store.exists_presign_iff hendpoint, Service.SignsUntil,
    start_url_of_not_isPublic _ _ _ _ hprivate, start_signedUrl]
  constructor
  · rintro ⟨url, hurl, hanswer⟩
    obtain ⟨t', hexpiry, hmap⟩ := bind_eq_ok_iff.mp (congrArg Prod.fst hanswer)
    obtain ⟨url', -, hresolved⟩ := map_eq_ok_iff.mp hmap
    cases hresolved
    exact ⟨hexpiry, url, hurl⟩
  · rintro ⟨hexpiry, url, hurl⟩
    refine ⟨url, hurl, ?_⟩
    rw [hexpiry, Except.bind, hurl]
    rfl

/-- What the service does not sign it refuses. -/
theorem refuses_url_of_forall_not
    (hprivate : service.registry.isPublic place.bucket place.key = false)
    (h : ∀ t, ¬service.SignsUntil place now t (r.url place wanted now)) :
    service.Refuses (r.url place wanted now) := by
  simp only [Service.SignsUntil, Service.Refuses, start_url_of_not_isPublic _ _ _ _ hprivate,
    start_signedUrl] at h ⊢
  cases hexpiry : r.expiry wanted now with
  | error fault => exact ⟨fault, rfl, isInvalidRequest_of_expiry hexpiry⟩
  | ok t =>
      simp only [hexpiry, Except.bind] at h ⊢
      cases hurl : service.backend.presign place now t with
      | error fault => exact ⟨fault, rfl, Store.isInvalidRequest_of_presign hurl⟩
      | ok url =>
          refine absurd ⟨url, hurl, ?_⟩ (h t)
          rw [hurl]
          rfl

end Resolver

/-- **The arithmetic of lifetimes is exact and total.**  For a path that is not public, and an
endpoint that is accepted, a resolver with a lifetime of some seconds signs until the instant so
many seconds later just if these are from one second to seven days and there is such an instant. A
wanted expiry it takes as it is, just if the whole seconds up to it are in the same range.  In all
other cases it refuses, and in none does the arithmetic leave the range of the machine. -/
theorem signsUntil_iff {service : Service Store} {place : ObjectLocation} {now : Instant}
    (hendpoint : AcceptsEndpoint service.backend.config.endpoint)
    (hprivate : service.registry.isPublic place.bucket place.key = false)
    (hnow : now.isLeap = false) (seconds : Nat) :
    (∀ t, service.SignsUntil place now t ((Resolver.ofSeconds seconds).url place none now) ↔
      (1 ≤ seconds ∧ seconds ≤ 604800) ∧
        t.seconds = now.seconds + seconds ∧ t.nanos = now.nanos) ∧
    ((∃ t, service.SignsUntil place now t ((Resolver.ofSeconds seconds).url place none now)) ↔
      (1 ≤ seconds ∧ seconds ≤ 604800) ∧ now.seconds + seconds ≤ maxSeconds) ∧
    (∀ wanted t, wanted.isLeap = false →
      (service.SignsUntil place now t ((Resolver.ofSeconds seconds).url place (some wanted) now) ↔
        t = wanted ∧ 1 ≤ (wanted.place - now.place).tdiv nanosPerSecond ∧
          (wanted.place - now.place).tdiv nanosPerSecond ≤ 604800)) ∧
    (∀ wanted, (∀ t, ¬service.SignsUntil place now t
        ((Resolver.ofSeconds seconds).url place wanted now)) →
      service.Refuses ((Resolver.ofSeconds seconds).url place wanted now)) ∧
    Fits now (Resolver.ofSeconds seconds).lifetime := by
  have hdefault : ∀ t,
      service.SignsUntil place now t ((Resolver.ofSeconds seconds).url place none now) ↔
        (1 ≤ seconds ∧ seconds ≤ 604800) ∧
          t.seconds = now.seconds + seconds ∧ t.nanos = now.nanos := by
    intro t
    rw [Resolver.signsUntil_url_iff hendpoint hprivate, Resolver.expiry_none_eq_ok_iff,
      Resolver.ofSeconds, Instant.add?_ofSeconds_eq_some_iff hnow, and_comm]
    refine and_congr_left fun hsum => ?_
    rw [Instant.wholeSecondsSince_add hnow hsum.1 hsum.2, isExpiry_iff]
    omega
  refine ⟨hdefault, ?_, ?_, ?_, .of_ofSeconds now seconds⟩
  · simp only [hdefault, exists_and_left, Instant.exists_later_iff hnow]
  · intro wanted t hwanted
    rw [Resolver.signsUntil_url_iff hendpoint hprivate, Resolver.expiry_some_eq_ok_iff]
    refine and_congr_right ?_
    rintro rfl
    rw [isExpiry_iff, Instant.wholeSecondsSince_eq_tdiv hwanted hnow]
  · exact fun wanted h => Resolver.refuses_url_of_forall_not hprivate h

/-- The store on the machine itself, with nothing public. -/
def localService : Service Store := ⟨.empty, localStore⟩

theorem acceptsEndpoint_localService : AcceptsEndpoint localService.backend.config.endpoint := by
  have hread : Endpoint.read localStore.config.endpoint = .ok localEndpoint := by cbv
  have hhost : localEndpoint.hostHeader? = some "[::1]:9000".toList := by decide +kernel
  let request := localStore.presignRequest picture lateInSecond earlyInSecond
  exact ⟨request, String.ofList (request.url localEndpoint "[::1]:9000".toList), rfl,
    presign_eq_ok_iff.mpr ⟨by decide, _, _, hread, hhost, rfl⟩⟩

/-- The theorem at a picture: an hour from nine tenths of a second, the most seconds that a word
holds, an expiry two seconds and two tenths ahead, and one at the time of signing. -/
theorem signsUntil_iff_picture :
    (∃ t, localService.SignsUntil picture lateInSecond t
        ((Resolver.ofSeconds 3600).url picture none lateInSecond) ∧
      t.seconds = 1369357200 ∧ t.nanos = 900000000) ∧
    localService.Refuses
      ((Resolver.ofSeconds 18446744073709551615).url picture none lateInSecond) ∧
    localService.SignsUntil picture lateInSecond earlyInSecond
      ((Resolver.ofSeconds 3600).url picture (some earlyInSecond) lateInSecond) ∧
    localService.Refuses
      ((Resolver.ofSeconds 3600).url picture (some lateInSecond) lateInSecond) := by
  have hendpoint := acceptsEndpoint_localService
  have hprivate : localService.registry.isPublic picture.bucket picture.key = false := by decide
  have hnow : lateInSecond.isLeap = false := by decide
  obtain ⟨hour, -, wanted, refused, -⟩ := signsUntil_iff hendpoint hprivate hnow 3600
  obtain ⟨most, -, -, mostRefused, -⟩ :=
    signsUntil_iff hendpoint hprivate hnow 18446744073709551615
  obtain ⟨t, ht⟩ : ∃ t : Instant,
      t.seconds = lateInSecond.seconds + (3600 : Nat) ∧ t.nanos = lateInSecond.nanos :=
    (Instant.exists_later_iff hnow).mpr (by decide)
  refine ⟨⟨t, (hour t).mpr ⟨by decide, ht⟩, ht⟩, ?_, ?_, ?_⟩
  · refine mostRefused none fun t hsigned => ?_
    exact absurd ((most t).mp hsigned).1 (by decide)
  · exact (wanted earlyInSecond earlyInSecond (by decide)).mpr ⟨rfl, by decide, by decide⟩
  · refine refused _ fun t hsigned => ?_
    exact absurd ((wanted lateInSecond t (by decide)).mp hsigned).2.1 (by decide)

end ObjectAccess
