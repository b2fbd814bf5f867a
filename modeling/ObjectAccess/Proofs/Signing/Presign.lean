import ObjectAccess.Proofs.Signing.Parameters
import ObjectAccess.Proofs.Time.Stamp
import ObjectAccess.Proofs.Url.RequestTarget

/-!
# What a signed URL says

The query of a signed URL is a written query: five parameters that are signed, and the
signature (`signedQuery_eq`).  It is read back as what the URL was signed for
(`readFrom_signedQuery`), if the year has four digits and neither the access key nor the
region holds the slash that divides a credential.  Without its signature it is the query
that was signed (`unsignedQuery_signedQuery`).
-/

namespace ObjectAccess.Signing

set_option autoImplicit false

open ObjectAccess.Text ObjectAccess.Time ObjectAccess.Url

/-- A URL is signed just if its validity is allowed and the endpoint has a host. -/
theorem presign_eq_ok_iff {r : PresignRequest} {url : String} :
    presign r = .ok url ↔ isExpiry r.expiresIn = true ∧
      ∃ endpoint host, Endpoint.read r.endpoint = .ok endpoint ∧
        endpoint.hostHeader? = some host ∧ String.ofList (r.url endpoint host) = url := by
  unfold presign
  split
  · next hexpiry => simp [hexpiry]
  · next hexpiry =>
      rw [Bool.not_eq_false] at hexpiry
      cases Endpoint.read r.endpoint with
      | error e => simp
      | ok endpoint =>
          cases hhost : endpoint.hostHeader? with
          | none => simp [hhost]
          | some host => simp [hexpiry, hhost]

namespace PresignRequest

/-! ## The query -/

/-- The parameters of a signed URL. -/
def signedParameters (r : PresignRequest) (signature : List Char) : List Parameter :=
  r.parameters ++ [("X-Amz-Signature".toList, signature)]

/-- The query of a signed URL. -/
def signedQuery (r : PresignRequest) (signature : List Char) : List Char :=
  r.query ++ "&X-Amz-Signature=".toList ++ signature

/-- A signed URL ends with its query. -/
theorem url_eq (r : PresignRequest) (endpoint : Endpoint) (host : List Char) :
    r.url endpoint host =
      (endpoint.scheme.toList ++ ':' :: '/' :: '/' :: (host ++ r.urlPath endpoint)) ++
        '?' :: r.signedQuery (r.signatureFor endpoint host) := by
  simp only [url, signedQuery, List.append_assoc, List.cons_append]

/-- The names of the parameters of a signed URL. -/
def parameterNames : List (List Char) :=
  ["X-Amz-Algorithm".toList, "X-Amz-Credential".toList, "X-Amz-Date".toList,
    "X-Amz-Expires".toList, "X-Amz-SignedHeaders".toList, "X-Amz-Signature".toList]

theorem name_mem_parameterNames {r : PresignRequest} {signature : List Char} {p : Parameter}
    (h : p ∈ r.signedParameters signature) : p.1 ∈ parameterNames :=
  List.mem_map_of_mem h

theorem clean_of_mem_signedParameters {r : PresignRequest} {signature : List Char} {p : Parameter}
    (h : p ∈ r.signedParameters signature) : p.Clean := by
  have hnames : ∀ name ∈ parameterNames, '=' ∉ name ∧ '&' ∉ name := by decide
  obtain ⟨hequals, hampersand⟩ := hnames p.1 (name_mem_parameterNames h)
  exact ⟨hequals, hampersand⟩

/-- A signature is written as it is, so the query of a signed URL is a written one. -/
theorem signedQuery_eq (r : PresignRequest) {signature : List Char}
    (h : ∀ c ∈ signature, Percent.isUnreserved c = true) :
    r.signedQuery signature = writtenQuery (r.signedParameters signature) := by
  have hlast : writtenQuery [("X-Amz-Signature".toList, signature)] =
      "X-Amz-Signature=".toList ++ signature := by
    simp only [writtenQuery, List.map_cons, List.map_nil, join, Percent.encode_of_isUnreserved h]
    rfl
  have hsigned : r.parameters ≠ [] := List.cons_ne_nil _ _
  rw [signedParameters, writtenQuery_append hsigned (List.cons_ne_nil _ _), hlast, signedQuery,
    List.append_assoc]
  rfl

/-- The value of a parameter of a signed URL. -/
theorem parameter?_signedQuery (r : PresignRequest) {signature : List Char}
    (h : ∀ c ∈ signature, Percent.isUnreserved c = true) (name : String) :
    parameter? (r.signedQuery signature) name =
      ((r.signedParameters signature).reverse.find? fun p => p.1 = name.toList).map (·.2) := by
  rw [r.signedQuery_eq h, parameter?_writtenQuery fun _ => clean_of_mem_signedParameters]

/-- Without its signature the query is the one that was signed. -/
theorem unsignedQuery_signedQuery (r : PresignRequest) {signature : List Char}
    (h : ∀ c ∈ signature, Percent.isUnreserved c = true) :
    SignedRequest.unsignedQuery (r.signedQuery signature) = r.query := by
  have hne : r.signedParameters signature ≠ [] := List.cons_ne_nil _ _
  rw [r.signedQuery_eq h, SignedRequest.unsignedQuery,
    pieces_writtenQuery hne fun _ => clean_of_mem_signedParameters]
  rfl

/-- A signed query keeps to its place. -/
theorem keepsToQuery_signedQuery (r : PresignRequest) {signature : List Char}
    (h : ∀ c ∈ signature, Percent.isUnreserved c = true) :
    RequestTarget.KeepsToQuery (r.signedQuery signature) := by
  have hnames : ∀ name ∈ parameterNames, name.all RequestTarget.isQueryChar = true := by decide
  rw [r.signedQuery_eq h]
  intro c hc
  rcases mem_join hc with rfl | ⟨text, htext, hc⟩
  · decide
  · obtain ⟨p, hp, rfl⟩ := List.mem_map.mp htext
    rcases List.mem_append.mp hc with hc | hc
    · exact List.all_eq_true.mp (hnames p.1 (name_mem_parameterNames hp)) c hc
    · rcases List.mem_cons.mp hc with rfl | hc
      · decide
      · exact RequestTarget.keepsToQuery_encode p.2 c hc

/-! ## Reading it back -/

/-- What the query of a signed URL says. -/
def written (r : PresignRequest) (signature : List Char) : SignedParameters where
  accessKey := r.credentials.accessKey.toList
  scope := r.scope
  signedAt := r.signedAt.wholeSecond
  expiresIn := r.expiresIn
  signedHeaders := ["host".toList]
  signature := signature

/-- The parts of a credential are read back if there is no slash in them. -/
theorem piecesUpTo_credential {accessKey : List Char} {scope : Scope} (hkey : '/' ∉ accessKey)
    (hdate : '/' ∉ scope.date) (hregion : '/' ∉ scope.region) (hservice : '/' ∉ scope.service) :
    piecesUpTo '/' 5 (accessKey ++ '/' :: scope.text) =
      [accessKey, scope.date, scope.region, scope.service, scopeEnd] := by
  rw [piecesUpTo_append 3 _ hkey, Scope.text, join_cons _ (List.cons_ne_nil _ _),
    piecesUpTo_append 2 _ hdate, join_cons _ (List.cons_ne_nil _ _),
    piecesUpTo_append 1 _ hregion, join_cons _ (List.cons_ne_nil _ _),
    piecesUpTo_append 0 _ hservice]
  rfl

/-- The query of a signed URL is read back as what the URL was signed for. -/
theorem readFrom_signedQuery {r : PresignRequest} {signature : List Char}
    (hkey : '/' ∉ r.credentials.accessKey.toList) (hregion : '/' ∉ r.region.toList)
    (hlow : 0 ≤ r.signedAt.date.year) (hhigh : r.signedAt.date.year ≤ 9999)
    (hexpiry : isExpiry r.expiresIn = true)
    (hsignature : ∀ c ∈ signature, Percent.isUnreserved c = true) :
    (r.written signature).ReadFrom (r.signedQuery signature) := by
  have hvalue := r.parameter?_signedQuery hsignature
  have hdate : '/' ∉ r.scope.date := fun hc =>
    absurd (Instant.isDigit_of_mem_dateStamp hlow hhigh hc) (by decide)
  have hservice : '/' ∉ service := by decide
  have hrange := isExpiry_iff.mp hexpiry
  exact {
    usesAlgorithm := hvalue _
    namesSigner := ⟨_, hvalue _, piecesUpTo_credential hkey hdate hregion hservice⟩
    namesTime := ⟨_, hvalue _, Instant.ofStamp?_stamp hlow hhigh⟩
    namesExpiry := ⟨_, hvalue _, Decimal.readSigned?_ofInt (by omega) (by omega)⟩
    limited := hexpiry
    namesHeaders := ⟨_, hvalue _, rfl⟩
    signed := hvalue _ }

end PresignRequest

end ObjectAccess.Signing
