import ObjectAccess.Proofs.Signing.RoundTrip

/-!
# What is read back from a signed URL

The signer joins the access key, the date, the region and the service with slashes, and writes the
year with as many digits as it has.  It does not look at what it joins.  The reader divides a
credential into five parts and takes a year to have four digits unless it has a sign.  So the
parameters of a signed URL are read back as what the URL was signed for just if neither the access
key nor the region holds a slash and the year has four digits, and otherwise the reader reports the
credential or the time (`ofQuery_of_presign`).
-/

namespace ObjectAccess.Signing

set_option autoImplicit false

open ObjectAccess.Text ObjectAccess.Time ObjectAccess.Url

/-! ## Refused parameters -/

namespace SignedParameters

/-- Only a credential with four slashes can be read. -/
theorem readCredential_of_count_ne {text : List Char} (h : text.count '/' ≠ 4) :
    readCredential text = .error .invalidCredential := by
  obtain ⟨firsts, last, hpieces, hcount, -⟩ := exists_piecesUpTo '/' 4 text
  unfold readCredential
  split
  · next accessKey date region service found hread =>
      have hlast : [accessKey, date, region, service] ++ [found] = firsts ++ [last] :=
        hread.symm.trans hpieces
      obtain ⟨rfl, hfound⟩ := List.append_inj' hlast rfl
      cases hfound
      split
      · next hend =>
          rw [hend] at hcount
          exact absurd hcount h
      · rfl
  · rfl

variable {query credential : List Char} {e : SigningError}

/-- A credential that cannot be read is what is reported. -/
theorem ofQuery_of_readCredential_error
    (halgorithm : parameter? query "X-Amz-Algorithm" = some algorithm)
    (hcredential : parameter? query "X-Amz-Credential" = some credential)
    (hread : readCredential credential = .error e) : ofQuery query = .error e := by
  simp only [ofQuery, required_eq_ok_iff.mpr halgorithm, required_eq_ok_iff.mpr hcredential, hread,
    bind, Except.bind, ne_eq, not_true_eq_false, if_false]

/-- A time that cannot be read is reported next. -/
theorem ofQuery_of_readSigningTime_error {date : List Char} {signer : List Char × Scope}
    (halgorithm : parameter? query "X-Amz-Algorithm" = some algorithm)
    (hcredential : parameter? query "X-Amz-Credential" = some credential)
    (hsigner : readCredential credential = .ok signer)
    (hdate : parameter? query "X-Amz-Date" = some date)
    (hread : readSigningTime date = .error e) : ofQuery query = .error e := by
  simp only [ofQuery, required_eq_ok_iff.mpr halgorithm, required_eq_ok_iff.mpr hcredential,
    hsigner, required_eq_ok_iff.mpr hdate, hread, bind, Except.bind, ne_eq, not_true_eq_false,
    if_false]

end SignedParameters

/-! ## Signed queries -/

namespace PresignRequest

variable (r : PresignRequest) {signature : List Char}

/-- The slashes of a credential are the four that divide it and those inside its parts. -/
theorem count_credential :
    (r.credentials.accessKey.toList ++ '/' :: r.scope.text).count '/' =
      4 + r.credentials.accessKey.toList.count '/' + r.region.toList.count '/' := by
  have hdate : r.scope.date.count '/' = 0 :=
    List.count_eq_zero.mpr r.signedAt.slash_not_mem_dateStamp
  have hservice : r.scope.service.count '/' = 0 := rfl
  have hend : scopeEnd.count '/' = 0 := rfl
  have hregion : r.scope.region = r.region.toList := rfl
  simp only [Scope.text, join, List.count_append, List.count_cons_self, hdate, hservice, hend,
    hregion]
  omega

/-- **What is read from the query of a signed URL.** -/
theorem ofQuery_signedQuery (hexpiry : isExpiry r.expiresIn = true)
    (hsignature : ∀ c ∈ signature, Percent.isUnreserved c = true) :
    SignedParameters.ofQuery (r.signedQuery signature) =
      if '/' ∈ r.credentials.accessKey.toList ∨ '/' ∈ r.region.toList then
        .error .invalidCredential
      else if 0 ≤ r.signedAt.date.year ∧ r.signedAt.date.year ≤ 9999 then
        .ok (r.written signature)
      else .error (.invalidParameter ("X-Amz-Date=" ++ String.ofList r.signedAt.stamp)) := by
  have hvalue := r.parameter?_signedQuery hsignature
  have hcredential : parameter? (r.signedQuery signature) "X-Amz-Credential" =
      some (r.credentials.accessKey.toList ++ '/' :: r.scope.text) := hvalue _
  split
  · next hslash =>
      have hcount := r.count_credential
      rw [← List.count_pos_iff, ← List.count_pos_iff] at hslash
      apply SignedParameters.ofQuery_of_readCredential_error (hvalue _) hcredential
      exact SignedParameters.readCredential_of_count_ne (by omega)
  · next hslash =>
      obtain ⟨hkey, hregion⟩ := not_or.mp hslash
      split
      · next hyear =>
          exact SignedParameters.ofQuery_eq_ok_iff.mpr
            (readFrom_signedQuery hkey hregion hyear.1 hyear.2 hexpiry hsignature)
      · next hyear =>
          have hservice : '/' ∉ service := by decide
          have hsigner : SignedParameters.readCredential
              (r.credentials.accessKey.toList ++ '/' :: r.scope.text) =
                .ok (r.credentials.accessKey.toList, r.scope) := by
            rw [SignedParameters.readCredential_eq_ok_iff]
            exact piecesUpTo_credential hkey r.signedAt.slash_not_mem_dateStamp hregion hservice
          have htime : SignedParameters.readSigningTime r.signedAt.stamp =
              .error (.invalidParameter ("X-Amz-Date=" ++ String.ofList r.signedAt.stamp)) := by
            rw [SignedParameters.readSigningTime, Instant.ofStamp?_stamp_of_not hyear]
          exact SignedParameters.ofQuery_of_readSigningTime_error (hvalue _) hcredential hsigner
            (hvalue _) htime

/-! ## Signed URLs -/

/-- Before its query a signed URL has no question mark. -/
theorem mark_not_mem_url {endpoint : Endpoint} {host : List Char} (wf : endpoint.WellFormed)
    (hhost : endpoint.hostHeader? = some host) :
    '?' ∉ endpoint.scheme.toList ++ ':' :: '/' :: '/' :: (host ++ r.urlPath endpoint) := by
  have hscheme : '?' ∉ endpoint.scheme.toList := fun h =>
    absurd (wf.scheme_chars _ h) (by decide)
  have hauthority : '?' ∉ host := fun h =>
    absurd (wf.keepsToAuthority_hostHeader hhost _ h) (by decide)
  have hbase : '?' ∉ dropEndWhile (· = '/') endpoint.path := fun h =>
    absurd (wf.isPath.keeps _ ((dropEndWhile_isPrefix _ _).subset h)) (by decide)
  have hpath : '?' ∉ Percent.encodePath r.path.toList := by
    intro h
    rcases Percent.mem_encodePath h with hc | hc | hc
    · cases hc
    · cases hc
    · exact absurd hc (by decide)
  simp [urlPath, hscheme, hauthority, hbase, hpath]

end PresignRequest

/-- What follows the first question mark of a signed URL is a query that ends with a signature. -/
theorem cut?_of_presign {r : PresignRequest} {url : String} (h : presign r = .ok url) :
    ∃ base signature, cut? '?' url.toList = some (base, r.signedQuery signature) ∧
      ∀ c ∈ signature, Percent.isUnreserved c = true := by
  obtain ⟨-, endpoint, host, hread, hhost, rfl⟩ := presign_eq_ok_iff.mp h
  have wf : endpoint.WellFormed := Endpoint.wellFormed_of_read hread
  have hcut := cut?_append (r.signedQuery (r.signatureFor endpoint host))
    (r.mark_not_mem_url wf hhost)
  rw [← r.url_eq endpoint host, ← String.toList_ofList (l := r.url endpoint host)] at hcut
  refine ⟨_, _, hcut, ?_⟩
  intro c hc
  exact PresignRequest.isUnreserved_of_mem_signatureFor hc

/-- **The parameters of a signed URL are read back just if its parts keep to their places.**  What
follows the first question mark of the URL is a query that ends with the signature.  If neither the
access key nor the region holds a slash and the year has four digits, the query is read as what the
URL was signed for: the access key, the date in eight digits, the region and the service, the whole
second, the seconds of validity, the host as the only header, and the signature.  With a slash in
the access key or the region the reader reports the credential, and in any other year the time. -/
theorem ofQuery_of_presign {r : PresignRequest} {url : String} (h : presign r = .ok url) :
    ∃ base signature, cut? '?' url.toList = some (base, r.signedQuery signature) ∧
      SignedParameters.ofQuery (r.signedQuery signature) =
        (if '/' ∈ r.credentials.accessKey.toList ∨ '/' ∈ r.region.toList then
          .error .invalidCredential
        else if 0 ≤ r.signedAt.date.year ∧ r.signedAt.date.year ≤ 9999 then
          .ok ⟨r.credentials.accessKey.toList,
            ⟨r.signedAt.dateStamp, r.region.toList, "s3".toList⟩, r.signedAt.wholeSecond,
            r.expiresIn, ["host".toList], signature⟩
        else .error (.invalidParameter ("X-Amz-Date=" ++ String.ofList r.signedAt.stamp))) ∧
      (0 ≤ r.signedAt.date.year ∧ r.signedAt.date.year ≤ 9999 →
        r.signedAt.dateStamp.length = 8) := by
  obtain ⟨base, signature, hcut, hsignature⟩ := cut?_of_presign h
  have hexpiry := (presign_eq_ok_iff.mp h).1
  refine ⟨base, signature, hcut, r.ofQuery_signedQuery hexpiry hsignature, ?_⟩
  rintro ⟨hlow, hhigh⟩
  exact Instant.length_dateStamp hlow hhigh

/-- A request whose access key holds a slash. -/
def slashedKey : PresignRequest where
  method := "GET"
  endpoint := "http://[::1]:9000"
  path := "/b/k"
  region := "us-east-1"
  credentials := ⟨"A/B", "s"⟩
  signedAt := (Instant.ofUnix? 1369353600 0).getD .epoch
  expiresIn := 60

/-- A URL is signed for it. -/
theorem exists_presign_slashedKey : ∃ url, presign slashedKey = .ok url := by
  have hread : Endpoint.read slashedKey.endpoint =
      .ok ⟨"http", some (.ipv6 [0, 0, 0, 0, 0, 0, 0, 1]), some 9000, ['/']⟩ := by cbv
  exact ⟨_, presign_eq_ok_iff.mpr ⟨by decide, _, _, hread, rfl, rfl⟩⟩

/-- The theorem at that request: its credential is not read back. -/
theorem ofQuery_of_presign_slashedKey :
    ∃ url base query, presign slashedKey = .ok url ∧ cut? '?' url.toList = some (base, query) ∧
      SignedParameters.ofQuery query = .error .invalidCredential := by
  obtain ⟨url, hurl⟩ := exists_presign_slashedKey
  obtain ⟨base, signature, hcut, hread, -⟩ := ofQuery_of_presign hurl
  exact ⟨url, base, _, hurl, hcut, hread.trans (if_pos (by decide))⟩

/-- Not every signed URL has parameters that can be read. -/
theorem exists_unreadable_presigned :
    ¬∀ (r : PresignRequest) (url : String), presign r = .ok url →
      ∃ base query p, cut? '?' url.toList = some (base, query) ∧
        SignedParameters.ofQuery query = .ok p := by
  intro hall
  obtain ⟨url, hurl⟩ := exists_presign_slashedKey
  obtain ⟨base, query, p, hcut, hread⟩ := hall slashedKey url hurl
  obtain ⟨base', signature, hcut', hsignature⟩ := cut?_of_presign hurl
  rw [hcut'] at hcut
  cases hcut
  have herror := slashedKey.ofQuery_signedQuery (by decide) hsignature
  rw [hread, if_pos (by decide)] at herror
  cases herror

end ObjectAccess.Signing
