import ObjectAccess.Proofs.Access.Resolver
import ObjectAccess.Proofs.Time.Difference

/-!
# A signed URL is valid until the promised time

A store signs a URL until an instant, and the resolver says with a signed URL when it expires.
The URL itself states when it was signed, in whole seconds, and for how many seconds it is valid.
So two fractions are lost, that of the signing time and that of the distance to the promised
instant.  Neither is rounded up: the end that the URL states is not after the promised instant,
and it is less than two seconds before it (`place_end`).

Hence a URL is refused as expired at every time after the promised one, and never at a time that
is two seconds before it or earlier (`exists_keepsPromise`).
-/

namespace ObjectAccess

set_option autoImplicit false

open ObjectAccess.Time ObjectAccess.Url

namespace Signing

/-! ## When a URL has expired -/

namespace SignedRequest

/-- The only thing that a header can be is missing. -/
theorem error_of_collectHeaders {headers : List Header} {names : List (List Char)}
    {e : SigningError} (h : collectHeaders headers names = .error e) :
    ∃ name, e = .missingHeader name := by
  induction names with
  | nil => cases h
  | cons name others ih =>
      unfold collectHeaders at h
      cases hheader : header? headers name with
      | none =>
          rw [hheader] at h
          cases h
          exact ⟨_, rfl⟩
      | some value =>
          rw [hheader] at h
          cases hothers : collectHeaders headers others with
          | error reason =>
              rw [hothers] at h
              cases h
              exact ih hothers
          | ok found =>
              rw [hothers] at h
              cases h

/-- The check of a signature has nothing to do with the time, unless the keyring has. -/
theorem checkSignature_ne_expired (r : SignedRequest) (p : SignedParameters) {keyring : Keyring}
    (hkeyring : ∀ key, keyring key ≠ .error .expired) (ends : Instant) :
    r.checkSignature p keyring ends ≠ .error .expired := by
  intro h
  rcases bind_eq_error_iff.mp h with hsecret | ⟨secret, -, hrest⟩
  · exact hkeyring _ hsecret
  · rcases bind_eq_error_iff.mp hrest with hheaders | ⟨headers, -, hcheck⟩
    · obtain ⟨name, hname⟩ := error_of_collectHeaders hheaders
      cases hname
    · split at hcheck
      · cases hcheck
      · cases hcheck

end SignedRequest

/-- A keyring of key pairs fails for want of a key only. -/
theorem Keyring.ofList_ne_expired (pairs : List Credentials) (key : String) :
    Keyring.ofList pairs key ≠ .error .expired := by
  unfold ofList
  split
  · rintro ⟨⟩
  · rintro ⟨⟩

/-- Whether a URL states that its validity ends at an instant. -/
def StatesEnd (url : String) (ends : Instant) : Prop :=
  ∃ target authority p, RequestTarget.read url = .ok target ∧ target.authority = some authority ∧
    SignedParameters.ofQuery (target.query.getD "").toList = .ok p ∧ p.expiresAt? = some ends

/-- A URL is refused as expired after the end that it states. -/
theorem verifyUrl_of_isBefore {url : String} {ends now : Instant} (h : StatesEnd url ends)
    (hnow : ends.isBefore now = true) (method : String) (keyring : Keyring) :
    verifyUrl method url keyring now = .refused .expired := by
  obtain ⟨target, authority, p, hread, hauthority, hquery, hends⟩ := h
  unfold verifyUrl
  simp only [hread, hauthority, SignedRequest.verify, hquery, hends, hnow, if_true]

/-- Up to the end that it states it is not, unless the keyring says so. -/
theorem verifyUrl_ne_expired {url : String} {ends now : Instant} (h : StatesEnd url ends)
    (hnow : ends.isBefore now = false) (method : String) {keyring : Keyring}
    (hkeyring : ∀ key, keyring key ≠ .error .expired) :
    verifyUrl method url keyring now ≠ .refused .expired := by
  obtain ⟨target, authority, p, hread, hauthority, hquery, hends⟩ := h
  unfold verifyUrl
  simp only [hread, hauthority, SignedRequest.verify, hquery, hends, hnow, Bool.false_eq_true,
    if_false]
  generalize hcheck : SignedRequest.checkSignature _ p keyring ends = outcome
  cases outcome with
  | ok identity =>
      intro h
      cases h
  | error e =>
      rintro ⟨⟩
      exact SignedRequest.checkSignature_ne_expired _ p hkeyring ends hcheck

/-- So it is not up to any instant before that end. -/
theorem verifyUrl_ne_expired_of_early {url : String} {early ends now : Instant}
    (h : StatesEnd url ends) (hearly : early.isBefore ends = true)
    (hnow : early.isBefore now = false) (method : String) {keyring : Keyring}
    (hkeyring : ∀ key, keyring key ≠ .error .expired) :
    verifyUrl method url keyring now ≠ .refused .expired := by
  have hends : ends.isBefore now = false := by
    by_contra hpast
    rw [Bool.not_eq_false] at hpast
    rw [Instant.isBefore_trans hearly hpast] at hnow
    cases hnow
  exact verifyUrl_ne_expired h hends method hkeyring

/-! ## The end that a signed URL states -/

/-- A URL that was signed states an end: the validity is added to the whole second of signing. -/
theorem statesEnd_of_presign {r : PresignRequest} {url : String} {target : RequestTarget}
    (hstart : r.path.toList.head? = some '/') (hkey : '/' ∉ r.credentials.accessKey.toList)
    (hregion : '/' ∉ r.region.toList) (hleap : r.signedAt.isLeap = false)
    (hlow : 0 ≤ r.signedAt.date.year) (hhigh : r.signedAt.date.year ≤ 9999)
    (hurl : presign r = .ok url) (htarget : RequestTarget.read url = .ok target) :
    1 ≤ r.expiresIn ∧ ∃ ends, StatesEnd url ends ∧
      ends.seconds = r.signedAt.seconds + r.expiresIn ∧ ends.nanos = 0 := by
  obtain ⟨hexpiry, endpoint, host, hread, hhost, rfl⟩ := presign_eq_ok_iff.mp hurl
  obtain ⟨rfl, -⟩ := PresignRequest.eq_of_read_url (Endpoint.wellFormed_of_read hread) hhost
    hstart htarget
  refine ⟨(isExpiry_iff.mp hexpiry).1, ?_⟩
  obtain ⟨ends, hends, hseconds, hnanos⟩ :=
    exists_expiresAt_written (r.signatureFor endpoint host) hleap hhigh hexpiry
  refine ⟨ends, ⟨_, String.ofList host, _, htarget, rfl, ?_, hends⟩, hseconds, hnanos⟩
  rw [SignedParameters.ofQuery_eq_ok_iff, Option.getD_some, String.toList_ofList]
  exact PresignRequest.readFrom_signedQuery hkey hregion hlow hhigh hexpiry
    fun _ => PresignRequest.isUnreserved_of_mem_signatureFor

end Signing

/-! ## The promise -/

open Signing

/-- Whole seconds from the whole second of one instant to the other end in the two seconds up to
the other. -/
theorem Time.Instant.place_end {signedAt promised ends : Instant}
    (hsigned : signedAt.isLeap = false) (hpromised : promised.isLeap = false)
    (hpos : 1 ≤ promised.wholeSecondsSince signedAt)
    (hseconds : ends.seconds = signedAt.seconds + promised.wholeSecondsSince signedAt)
    (hnanos : ends.nanos = 0) :
    promised.place - 2 * nanosPerSecond < ends.place ∧ ends.place ≤ promised.place := by
  obtain ⟨hlow, hhigh⟩ := Instant.wholeSecondsSince_bounds hpromised hsigned hpos
  have hfraction := Instant.nanos_lt_of_not_isLeap hsigned
  -- The end is the place of signing without its fraction, and the whole seconds further on.
  have hend : ends.place = signedAt.place - signedAt.nanos +
      promised.wholeSecondsSince signedAt * nanosPerSecond := by
    unfold Instant.place
    rw [hseconds, hnanos, Int.add_mul]
    omega
  rw [Int.add_mul] at hhigh
  omega

/-- A URL keeps the promise to be valid until an instant if the end that it states lies in the two
seconds up to that instant, so that it is refused as expired after the instant, and not when there
are two seconds left.  A keyring is to fail for want of a key only, as one of key pairs does, and
not as if the URL had expired. -/
structure KeepsPromise (url : String) (promised early ends : Instant) : Prop where
  two_seconds : early.isLeap = false ∧ early.add? ⟨2, 0⟩ = some promised
  states : StatesEnd url ends
  after_early : early.isBefore ends = true
  not_after : promised.isBefore ends = false
  expires : ∀ method keyring now, promised.isBefore now = true →
    verifyUrl method url keyring now = .refused .expired
  lasts : ∀ method keyring now, (∀ key, keyring key ≠ .error .expired) →
    early.isBefore now = false → verifyUrl method url keyring now ≠ .refused .expired
  lasts_ofList : ∀ method pairs now, early.isBefore now = false →
    verifyUrl method url (Keyring.ofList pairs) now ≠ .refused .expired

/-- It is enough that the stated end lies in the two seconds. -/
theorem KeepsPromise.of_statesEnd {url : String} {promised early ends : Instant}
    (htwo : early.isLeap = false ∧ early.add? ⟨2, 0⟩ = some promised) (hstates : StatesEnd url ends)
    (hafter : early.isBefore ends = true) (hnot : promised.isBefore ends = false) :
    KeepsPromise url promised early ends where
  two_seconds := htwo
  states := hstates
  after_early := hafter
  not_after := hnot
  expires method keyring _ hnow :=
    verifyUrl_of_isBefore hstates (Instant.isBefore_of_not_isBefore hnot hnow) method keyring
  lasts method _ _ hkeyring hnow :=
    verifyUrl_ne_expired_of_early hstates hafter hnow method hkeyring
  lasts_ofList method pairs _ hnow :=
    verifyUrl_ne_expired_of_early hstates hafter hnow method (Keyring.ofList_ne_expired pairs)

/-- The calendar starts before the years with four digits. -/
theorem Time.Instant.minSeconds_lt_of_year {t : Instant} (h : 0 ≤ t.date.year) :
    minSeconds < t.seconds := by
  refine lt_of_le_of_ne t.min_le ?_
  intro hfirst
  rw [Instant.date, ← hfirst] at h
  exact absurd h (by decide)

/-- What a store signs until an instant keeps that promise. -/
theorem Store.keepsPromise_of_presign {s : Store} {place : ObjectLocation}
    {signedAt promised : Instant} {url : String} {target : RequestTarget}
    (hkey : '/' ∉ s.config.accessKey.toList) (hregion : '/' ∉ s.config.region.toList)
    (hsigned : signedAt.isLeap = false) (hlow : 0 ≤ signedAt.date.year)
    (hhigh : signedAt.date.year ≤ 9999) (hpromised : promised.isLeap = false)
    (hurl : s.presign place signedAt promised = .ok url)
    (htarget : RequestTarget.read url = .ok target) :
    ∃ early ends, KeepsPromise url promised early ends := by
  have hstart : (s.presignRequest place signedAt promised).path.toList.head? = some '/' := by
    simp [presignRequest, objectPath, String.toList_append]
  obtain ⟨hpos, ends, hstates, hseconds, hnanos⟩ :=
    statesEnd_of_presign hstart hkey hregion hsigned hlow hhigh (presigned_of_presign hurl) htarget
  obtain ⟨hafter, hnot⟩ := Instant.place_end hsigned hpromised hpos hseconds hnanos
  have hends : ends.isLeap = false := Instant.isLeap_eq_false_of_lt (hnanos ▸ by decide)
  have hcalendar : minSeconds ≤ promised.seconds - 2 := by
    have hfirst := Instant.minSeconds_lt_of_year hlow
    have hdistance := (Instant.wholeSecondsSince_bounds hpromised hsigned hpos).1
    have hfraction := Instant.nanos_lt_of_not_isLeap hpromised
    change 1 ≤ promised.wholeSecondsSince signedAt at hpos
    unfold Instant.place nanosPerSecond at *
    omega
  obtain ⟨early, hleap, htwo⟩ := Instant.exists_add?_eq hpromised (by decide : 0 < 2) hcalendar
  refine ⟨early, ends, .of_statesEnd ⟨hleap, htwo⟩ hstates ?_ ?_⟩
  · have hearly := (Instant.place_add? hleap htwo).2
    rw [Instant.isBefore_iff_place hleap hends]
    simp only at hearly
    omega
  · rw [← Bool.not_eq_true, Instant.isBefore_iff_place hpromised hends]
    omega

namespace Resolver

variable {r : Resolver} {place : ObjectLocation} {wanted : Option Instant} {now promised : Instant}

/-- The resolver promises no leap second unless it is asked to. -/
theorem isLeap_of_expiry (hnow : now.isLeap = false)
    (hwanted : ∀ t, wanted = some t → t.isLeap = false)
    (h : r.expiry wanted now = .ok promised) : promised.isLeap = false := by
  unfold expiry at h
  cases wanted with
  | some t =>
      cases h
      exact hwanted _ rfl
  | none =>
      cases hadd : now.add? r.lifetime with
      | none =>
          simp only [hadd] at h
          cases h
      | some t =>
          simp only [hadd] at h
          cases h
          exact (Instant.place_add? hnow hadd).1

/-- A URL that is said to be signed until an instant was signed until it, whichever way it was
asked for. -/
theorem presign_of_signed {s : Service Store} {resolved : ResolvedUrl}
    (h : ((r.url place wanted now).start s).1 = .ok resolved ∨
      ((r.signedUrl place wanted now).start s).1 = .ok resolved)
    (haccess : resolved.access = .signed promised) :
    r.expiry wanted now = .ok promised ∧
      s.backend.presign place now promised = .ok resolved.url := by
  have hsigned : ((r.signedUrl place wanted now).start s).1 = .ok resolved := by
    rcases h with hurl | hsigned
    · cases hpublic : s.registry.isPublic place.bucket place.key with
      | true =>
          rw [r.start_url_of_isPublic place wanted now hpublic] at hurl
          cases hurl
          cases haccess
      | false =>
          rw [r.start_url_of_not_isPublic place wanted now hpublic] at hurl
          exact hurl
    · exact hsigned
  obtain ⟨t, hexpiry, ht, hpresign⟩ := r.presign_of_start_signedUrl place wanted now hsigned
  rw [haccess] at ht
  cases ht
  exact ⟨hexpiry, hpresign⟩

end Resolver

/-- **The expiry of a signed URL is what was promised.**  A URL that a store signs in a year of four
digits, with an access key and a region without slashes, keeps the promise to be valid until the
instant it was signed for, and a URL that the resolver says is signed until an instant keeps that
promise. -/
theorem exists_keepsPromise {s : Store} {place : ObjectLocation} {signedAt : Instant}
    (hkey : '/' ∉ s.config.accessKey.toList) (hregion : '/' ∉ s.config.region.toList)
    (hsigned : signedAt.isLeap = false) (hlow : 0 ≤ signedAt.date.year)
    (hhigh : signedAt.date.year ≤ 9999) :
    (∀ promised url target, promised.isLeap = false →
      s.presign place signedAt promised = .ok url → RequestTarget.read url = .ok target →
        ∃ early ends, KeepsPromise url promised early ends) ∧
    ∀ (r : Resolver) (registry : Registry) (wanted : Option Instant) resolved target promised,
      (∀ t, wanted = some t → t.isLeap = false) →
      ((r.url place wanted signedAt).start ⟨registry, s⟩).1 = .ok resolved ∨
        ((r.signedUrl place wanted signedAt).start ⟨registry, s⟩).1 = .ok resolved →
      resolved.access = .signed promised → RequestTarget.read resolved.url = .ok target →
        ∃ early ends, KeepsPromise resolved.url promised early ends := by
  constructor
  · intro promised url target hpromised hurl htarget
    exact Store.keepsPromise_of_presign hkey hregion hsigned hlow hhigh hpromised hurl htarget
  · intro r registry wanted resolved target promised hwanted hanswer haccess htarget
    obtain ⟨hexpiry, hurl⟩ := Resolver.presign_of_signed hanswer haccess
    have hpromised := Resolver.isLeap_of_expiry hsigned hwanted hexpiry
    exact Store.keepsPromise_of_presign hkey hregion hsigned hlow hhigh hpromised hurl htarget

/-- A store on the machine itself. -/
def localStore : Store := .empty { Config.standard with endpoint := "http://[::1]:9000" }

/-- Its endpoint. -/
def localEndpoint : Endpoint :=
  ⟨"http", some (.ipv6 [0, 0, 0, 0, 0, 0, 0, 1]), some 9000, "/".toList⟩

/-- Where a picture may be. -/
def picture : ObjectLocation := ⟨"photos", "a cat.png"⟩

/-- A time of signing with nine tenths of a second in it. -/
def lateInSecond : Instant := (Instant.ofUnix? 1369353600 900000000).getD .epoch

/-- Two seconds and two tenths later. -/
def earlyInSecond : Instant := ⟨1369353603, 100000000, by decide, by decide, by decide, by decide⟩

/-- The theorem at a URL of two seconds, which expires a second and a tenth before the promised
time. -/
theorem exists_keepsPromise_picture :
    ∃ url early ends, localStore.presign picture lateInSecond earlyInSecond = .ok url ∧
      ((Resolver.standard.url picture (some earlyInSecond) lateInSecond).start
        ⟨.empty, localStore⟩).1 = .ok ⟨url, .signed earlyInSecond⟩ ∧
      KeepsPromise url earlyInSecond early ends := by
  have hread : Endpoint.read localStore.config.endpoint = .ok localEndpoint := by cbv
  have hhost : localEndpoint.hostHeader? = some "[::1]:9000".toList := by decide +kernel
  let request := localStore.presignRequest picture lateInSecond earlyInSecond
  let url := String.ofList (request.url localEndpoint "[::1]:9000".toList)
  have hsigned : Signing.presign request = .ok url :=
    presign_eq_ok_iff.mpr ⟨by decide, _, _, hread, hhost, rfl⟩
  have hurl : localStore.presign picture lateInSecond earlyInSecond = .ok url := by
    rw [Store.presign, hsigned]
    rfl
  have hanswer : ((Resolver.standard.url picture (some earlyInSecond) lateInSecond).start
      ⟨.empty, localStore⟩).1 = .ok ⟨url, .signed earlyInSecond⟩ := by
    rw [Resolver.start_url_of_not_isPublic _ _ _ _ (by decide), Resolver.start_signedUrl]
    simp only [Resolver.expiry, Except.bind, hurl]
    rfl
  have hshort : 4 * (request.url localEndpoint "[::1]:9000".toList).length ≤
      RequestTarget.maxOctets := by decide +kernel
  have htaken : RequestTarget.takeAuthority "[::1]:9000".toList =
      .ok ("[::1]:9000".toList, []) := rfl
  have htarget := PresignRequest.read_url_of_length_le (r := request)
    (Endpoint.wellFormed_of_read hread) hhost (by decide) (by decide) (by decide) hshort htaken
  obtain ⟨-, hresolver⟩ := @exists_keepsPromise localStore picture lateInSecond
    (by decide) (by decide) (by decide) (by decide) (by decide)
  have hwanted : ∀ t, some earlyInSecond = some t → t.isLeap = false := by
    rintro t ⟨⟩
    decide
  obtain ⟨early, ends, hkeeps⟩ :=
    hresolver .standard .empty _ _ _ _ hwanted (Or.inl hanswer) rfl htarget
  exact ⟨url, early, ends, hurl, hanswer, hkeeps⟩

end ObjectAccess
