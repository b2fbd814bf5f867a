import ObjectAccess.Proofs.Signing.Expiry
import ObjectAccess.Proofs.Signing.Presign

/-!
# Signed URLs are accepted until they expire

A URL that was signed is accepted by whoever knows the signer's secret, up to and including
the last instant of its validity, and refused as expired after it (`verifyUrl_presign`).

The request that the verifier rebuilds from the URL is the one that was signed: the URL comes
apart into the host, the path and the query that it was put together from, and the query
without its signature is the one that was signed.  So both sides sign the same canonical
text, at the same time and in the same scope, because these are read back from the query.
-/

namespace ObjectAccess.Signing

set_option autoImplicit false

open ObjectAccess.Text ObjectAccess.Time ObjectAccess.Url

namespace PresignRequest

/-! ## The URL -/

theorem isUnreserved_of_mem_signatureFor {r : PresignRequest} {endpoint : Endpoint}
    {host : List Char} {c : Char} (h : c ∈ r.signatureFor endpoint host) :
    Percent.isUnreserved c = true := Hex.isUnreserved_of_mem_encode h

/-- The path of a signed URL starts with a slash and keeps to its place. -/
theorem urlPath_keeps {r : PresignRequest} {endpoint : Endpoint} (wf : endpoint.WellFormed)
    (hstart : r.path.toList.head? = some '/') :
    (r.urlPath endpoint).head? = some '/' ∧ KeepsToPath (r.urlPath endpoint) := by
  have hkept := dropEndWhile_isPrefix (· = '/') endpoint.path
  have hencoded : KeepsToPath (Percent.encodePath r.path.toList) := by
    intro c hc
    rcases Percent.mem_encodePath hc with rfl | rfl | hreserved
    · decide
    · decide
    · exact isPathChar_of_isUnreserved hreserved
  refine ⟨?_, (wf.isPath.keeps.of_subset hkept.subset).append hencoded⟩
  unfold urlPath
  cases hdropped : dropEndWhile (· = '/') endpoint.path with
  | nil =>
      obtain ⟨rest, hrest⟩ : ∃ rest, r.path.toList = '/' :: rest := List.head?_eq_some_iff.mp hstart
      rw [hrest, Percent.encodePath_slash]
      rfl
  | cons c others =>
      rw [hdropped] at hkept
      obtain ⟨after, hafter⟩ := hkept
      rcases wf.isPath.starts with hnil | hslash
      · rw [hnil] at hafter
        cases hafter
      · rw [← hafter] at hslash
        exact hslash

section

variable {r : PresignRequest} {endpoint : Endpoint} {host : List Char}
  (wf : endpoint.WellFormed) (hhost : endpoint.hostHeader? = some host)
  (hstart : r.path.toList.head? = some '/')
include wf hhost hstart

/-- A signed URL is taken if it is not too long and its host is taken. -/
theorem read_url :
    RequestTarget.read (String.ofList (r.url endpoint host)) =
      if RequestTarget.maxOctets < (String.ofList (r.url endpoint host)).utf8ByteSize then
        .error .tooLong
      else if 64 < endpoint.scheme.toList.length then .error .schemeTooLong
      else (RequestTarget.takeAuthority host).bind fun _ =>
        if host = [] then .error .badFormat
        else .ok ⟨some (String.ofList host), String.ofList (r.urlPath endpoint),
          some (String.ofList (r.signedQuery (r.signatureFor endpoint host)))⟩ := by
  obtain ⟨hslash, hpath⟩ := urlPath_keeps wf hstart
  exact RequestTarget.read_urlText wf.scheme_ne_nil wf.scheme_chars
    (wf.keepsToAuthority_hostHeader hhost) hslash hpath
    (r.keepsToQuery_signedQuery fun _ => isUnreserved_of_mem_signatureFor)

/-- A signed URL that is short is taken if its host is. -/
theorem read_url_of_length_le {taken : List Char × List Char} (hne : host ≠ [])
    (hscheme : endpoint.scheme.toList.length ≤ 64)
    (hlength : 4 * (r.url endpoint host).length ≤ RequestTarget.maxOctets)
    (htaken : RequestTarget.takeAuthority host = .ok taken) :
    RequestTarget.read (String.ofList (r.url endpoint host)) =
      .ok ⟨some (String.ofList host), String.ofList (r.urlPath endpoint),
        some (String.ofList (r.signedQuery (r.signatureFor endpoint host)))⟩ := by
  have hfits : ¬RequestTarget.maxOctets <
      (String.ofList (r.url endpoint host)).utf8ByteSize := by
    have hoctets := (length_octets_range (r.url endpoint host)).2
    rw [utf8ByteSize_ofList]
    omega
  rw [read_url wf hhost hstart, if_neg hfits, if_neg (by omega), htaken]
  exact if_neg hne

/-- A signed URL comes apart into its host, its path and its query. -/
theorem eq_of_read_url {target : RequestTarget}
    (hread : RequestTarget.read (String.ofList (r.url endpoint host)) = .ok target) :
    target = ⟨some (String.ofList host), String.ofList (r.urlPath endpoint),
        some (String.ofList (r.signedQuery (r.signatureFor endpoint host)))⟩ ∧
      ∀ c ∈ host, c = '%' ∨ RequestTarget.isAuthorityChar c = true := by
  obtain ⟨hslash, hpath⟩ := urlPath_keeps wf hstart
  exact RequestTarget.eq_of_read_urlText wf.scheme_ne_nil wf.scheme_chars
    (wf.keepsToAuthority_hostHeader hhost) hslash hpath
    (r.keepsToQuery_signedQuery fun _ => isUnreserved_of_mem_signatureFor) hread

end

end PresignRequest

/-! ## The signature -/

namespace SignedRequest

theorem visible_of_isUnreserved {c : Char} (h : Percent.isUnreserved c = true) :
    ' ' ≤ c ∧ c ≤ '~' := by
  have hrange := Percent.isUnreserved_range h
  rw [Char.le_def, Char.le_def, UInt32.le_iff_toNat_le, UInt32.le_iff_toNat_le]
  simp only [Char.reduceVal, UInt32.reduceToNat]
  omega

/-- An authority is text of a header. -/
theorem isHeaderText_of_authority {host : List Char}
    (h : ∀ c ∈ host, c = '%' ∨ RequestTarget.isAuthorityChar c = true) :
    isHeaderText host = true := by
  have hmarks : ("!$&'()*+,-.:;=@[]_~".toList.all fun c => ' ' ≤ c && c ≤ '~') = true := by decide
  refine List.all_eq_true.mpr fun c hc => ?_
  have hvisible : ' ' ≤ c ∧ c ≤ '~' := by
    rcases h c hc with rfl | hchar
    · decide
    · rcases (Bool.or_eq_true _ _).mp hchar with halphanum | hmark
      · exact visible_of_isUnreserved (by simp [Percent.isUnreserved, halphanum])
      · simpa using List.all_eq_true.mp hmarks c (List.contains_iff_mem.mp hmark)
  simp [hvisible.1, hvisible.2]

theorem collectHeaders_host {host : List Char} (h : isHeaderText host = true) :
    collectHeaders [("host".toList, host)] ["host".toList] = .ok [("host".toList, host)] := by
  have hheader : header? [("host".toList, host)] "host".toList = some host := by
    simp [header?, h]
  rw [collectHeaders, hheader]
  rfl

/-- The request that a client makes with a signed URL. -/
def ofPresigned (r : PresignRequest) (endpoint : Endpoint) (host : List Char) : SignedRequest where
  method := r.method
  path := String.ofList (r.urlPath endpoint)
  query := String.ofList (r.signedQuery (r.signatureFor endpoint host))
  headers := [("host".toList, host)]

/-- The signature that the verifier expects is the one that the signer made. -/
theorem expectedSignature_ofPresigned (r : PresignRequest) (endpoint : Endpoint)
    (host : List Char) :
    (ofPresigned r endpoint host).expectedSignature (r.written (r.signatureFor endpoint host))
      [("host".toList, host)] r.credentials.secretKey.toList =
        (r.written (r.signatureFor endpoint host)).signature := by
  unfold expectedSignature ofPresigned
  simp only [String.toList_ofList]
  rw [r.unsignedQuery_signedQuery fun _ => PresignRequest.isUnreserved_of_mem_signatureFor]
  have hstamp : (r.written (r.signatureFor endpoint host)).signedAt.stamp = r.signedAt.stamp :=
    r.signedAt.stamp_wholeSecond
  rw [hstamp]
  rfl

/-- The signature of a signed URL is the right one. -/
theorem checkSignature_ofPresigned {r : PresignRequest} {endpoint : Endpoint} {host : List Char}
    {keyring : Keyring} (hhost : isHeaderText host = true)
    (hkeyring : keyring r.credentials.accessKey = .ok r.credentials.secretKey)
    (expiresAt : Instant) :
    (ofPresigned r endpoint host).checkSignature (r.written (r.signatureFor endpoint host))
      keyring expiresAt = .ok ⟨r.credentials.accessKey, r.region, "s3", expiresAt⟩ := by
  have hsigner : String.ofList (r.written (r.signatureFor endpoint host)).accessKey =
      r.credentials.accessKey := String.ofList_toList
  have hregion : String.ofList (r.written (r.signatureFor endpoint host)).scope.region =
      r.region := String.ofList_toList
  unfold checkSignature
  simp only [hsigner, hregion]
  refine bind_eq_ok_iff.mpr ⟨r.credentials.secretKey, hkeyring, ?_⟩
  refine bind_eq_ok_iff.mpr ⟨[("host".toList, host)], collectHeaders_host hhost, ?_⟩
  rw [if_pos (expectedSignature_ofPresigned r endpoint host)]
  rfl

end SignedRequest

/-! ## The verdict -/

/-- The validity of a URL that is signed in a year of four digits ends inside the calendar. -/
theorem exists_expiresAt_written {r : PresignRequest} (signature : List Char)
    (hleap : r.signedAt.isLeap = false) (hhigh : r.signedAt.date.year ≤ 9999)
    (hexpiry : isExpiry r.expiresIn = true) :
    ∃ t, (r.written signature).expiresAt? = some t ∧
      t.seconds = r.signedAt.seconds + r.expiresIn ∧ t.nanos = 0 := by
  have hrange := isExpiry_iff.mp hexpiry
  have hdays := days_lt_of_year (r.signedAt.seconds / secondsPerDay)
  have hyear : (Date.ofDays (r.signedAt.seconds / secondsPerDay)).year ≤ 9999 := hhigh
  have hinside : r.signedAt.seconds + r.expiresIn ≤ maxSeconds := by
    unfold secondsPerDay at hdays hyear
    unfold maxSeconds
    omega
  obtain ⟨t, ht, hseconds, hnanos⟩ :=
    SignedParameters.exists_expiresAt? (p := r.written signature) hrange.1 hinside
  refine ⟨t, ht, hseconds, ?_⟩
  rw [hnanos]
  change r.signedAt.wholeSecond.nanos % nanosPerSecond = 0
  rw [Instant.wholeSecond_nanos hleap]
  rfl

/-- The keyring of a key pair has its secret key. -/
theorem Keyring.ofCredentials_self (c : Credentials) :
    Keyring.ofCredentials c c.accessKey = .ok c.secretKey := by
  simp [ofCredentials, ofList]

/-- **A signed URL is accepted until it expires.**  The verifier who knows the secret names the
signer, the region and the last instant of validity, up to that instant, and reports the expiry
after it. -/
theorem verifyUrl_presign {r : PresignRequest} {url : String} {target : RequestTarget}
    {keyring : Keyring} (hstart : r.path.toList.head? = some '/')
    (hkey : '/' ∉ r.credentials.accessKey.toList) (hregion : '/' ∉ r.region.toList)
    (hleap : r.signedAt.isLeap = false) (hlow : 0 ≤ r.signedAt.date.year)
    (hhigh : r.signedAt.date.year ≤ 9999) (hurl : presign r = .ok url)
    (htarget : RequestTarget.read url = .ok target)
    (hkeyring : keyring r.credentials.accessKey = .ok r.credentials.secretKey) :
    ∃ expiresAt : Instant, expiresAt.seconds = r.signedAt.seconds + r.expiresIn ∧
      expiresAt.nanos = 0 ∧
      ∀ now, verifyUrl r.method url keyring now =
        if expiresAt.isBefore now then .refused .expired
        else .accepted ⟨r.credentials.accessKey, r.region, "s3", expiresAt⟩ := by
  obtain ⟨hexpiry, endpoint, host, hread, hhost, rfl⟩ := presign_eq_ok_iff.mp hurl
  have wf : endpoint.WellFormed := Endpoint.wellFormed_of_read hread
  obtain ⟨rfl, hchars⟩ := PresignRequest.eq_of_read_url wf hhost hstart htarget
  have hsignature : ∀ c ∈ r.signatureFor endpoint host, Percent.isUnreserved c = true :=
    fun _ => PresignRequest.isUnreserved_of_mem_signatureFor
  have hparameters : SignedParameters.ofQuery
      (SignedRequest.ofPresigned r endpoint host).query.toList =
        .ok (r.written (r.signatureFor endpoint host)) := by
    rw [SignedParameters.ofQuery_eq_ok_iff, SignedRequest.ofPresigned, String.toList_ofList]
    exact PresignRequest.readFrom_signedQuery hkey hregion hlow hhigh hexpiry hsignature
  obtain ⟨expiresAt, hexpires, hseconds, hnanos⟩ :=
    exists_expiresAt_written (r.signatureFor endpoint host) hleap hhigh hexpiry
  refine ⟨expiresAt, hseconds, hnanos, fun now => ?_⟩
  have hrequest : verifyUrl r.method (String.ofList (r.url endpoint host)) keyring now =
      (SignedRequest.ofPresigned r endpoint host).verify keyring now := by
    unfold verifyUrl SignedRequest.ofPresigned
    simp only [htarget, Option.getD_some, String.toList_ofList]
  have hheader := SignedRequest.isHeaderText_of_authority hchars
  rw [hrequest, SignedRequest.verify, hparameters]
  simp only [hexpires, SignedRequest.checkSignature_ofPresigned hheader hkeyring]

/-- A URL for a path with separators, an escape and characters beyond ASCII in it. -/
def reservedRequest : PresignRequest where
  method := "PUT"
  endpoint := "http://[::1]:9000/p//"
  path := "/a b//%2F?#+é&="
  region := "eu west"
  credentials := ⟨"AK+%", "secret"⟩
  signedAt := ⟨1369353600, 5, by decide, by decide, by decide, by decide⟩
  expiresIn := 604800

/-- Its endpoint. -/
def reservedEndpoint : Endpoint :=
  ⟨"http", some (.ipv6 [0, 0, 0, 0, 0, 0, 0, 1]), some 9000, "/p//".toList⟩

/-- The theorem at that URL, seven days after it was signed and one nanosecond later. -/
theorem verifyUrl_presign_reserved :
    ∃ url, presign reservedRequest = .ok url ∧
      verifyUrl "PUT" url (Keyring.ofCredentials reservedRequest.credentials)
        ⟨1369958400, 0, by decide, by decide, by decide, by decide⟩ =
          .accepted ⟨"AK+%", "eu west", "s3",
            ⟨1369958400, 0, by decide, by decide, by decide, by decide⟩⟩ ∧
      verifyUrl "PUT" url (Keyring.ofCredentials reservedRequest.credentials)
        ⟨1369958400, 1, by decide, by decide, by decide, by decide⟩ = .refused .expired := by
  have hread : Endpoint.read reservedRequest.endpoint = .ok reservedEndpoint := by cbv
  have hhost : reservedEndpoint.hostHeader? = some "[::1]:9000".toList := by decide +kernel
  have hurl : presign reservedRequest = .ok
      (String.ofList (reservedRequest.url reservedEndpoint "[::1]:9000".toList)) :=
    presign_eq_ok_iff.mpr ⟨by decide, _, _, hread, hhost, rfl⟩
  have hstart : reservedRequest.path.toList.head? = some '/' := by decide
  have hlength : (reservedRequest.url reservedEndpoint "[::1]:9000".toList).length ≤ 1000 := by
    decide +kernel
  have hfits : ¬RequestTarget.maxOctets <
      (String.ofList (reservedRequest.url reservedEndpoint "[::1]:9000".toList)).utf8ByteSize := by
    have hoctets := (length_octets_range
      (reservedRequest.url reservedEndpoint "[::1]:9000".toList)).2
    rw [utf8ByteSize_ofList, RequestTarget.maxOctets]
    omega
  have htarget := PresignRequest.read_url (Endpoint.wellFormed_of_read hread) hhost hstart
  rw [if_neg hfits, if_neg (by decide), show RequestTarget.takeAuthority "[::1]:9000".toList =
    .ok ("[::1]:9000".toList, []) from rfl] at htarget
  have hkeyring := Keyring.ofCredentials_self reservedRequest.credentials
  obtain ⟨expiresAt, hseconds, hnanos, hverdict⟩ := verifyUrl_presign hstart (by decide)
    (by decide) (by decide) (by decide) (by decide) hurl htarget hkeyring
  have hexpires : expiresAt = ⟨1369958400, 0, by decide, by decide, by decide, by decide⟩ := by
    cases expiresAt
    cases hseconds
    cases hnanos
    rfl
  subst hexpires
  exact ⟨_, hurl, hverdict _, hverdict _⟩

end ObjectAccess.Signing
