import ObjectAccess.Proofs.Signing.Window

/-!
# The order of a query does not matter

The verifier looks at a query in three ways: it takes the value of the last parameter of a name, it
leaves out the pieces that start with the name of the signature, and it sorts what is left.  None of
these looks at empty pieces, and sorting forgets the order.  The last parameter of a name depends on
the order only if there are several.  So a request gets the same verdict for every query with the
same pieces, as long as none of the six names stands there twice (`verify_of_samePieces`).
-/

namespace ObjectAccess.Signing

set_option autoImplicit false

open ObjectAccess.Text ObjectAccess.Time ObjectAccess.Url

/-! ## Lists -/

/-- Two orders of a list with at most one element that is looked for find the same element. -/
theorem find?_eq_of_perm {α : Type} {l l' : List α} {p : α → Bool} (h : l.Perm l')
    (hone : l.countP p ≤ 1) : l.find? p = l'.find? p := by
  have hperm : (l.filter p).Perm (l'.filter p) := h.filter p
  rw [List.countP_eq_length_filter] at hone
  have hfound : l.filter p = l'.filter p := by
    cases hfilter : l.filter p with
    | nil =>
        rw [hfilter] at hperm
        exact hperm.nil_eq
    | cons a others =>
        have hothers : others = [] := by
          rw [hfilter, List.length_cons] at hone
          exact List.length_eq_zero_iff.mp (by omega)
        rw [hfilter, hothers] at hperm
        rw [hothers, List.singleton_perm.mp hperm]
  rw [← List.head?_filter, ← List.head?_filter, hfound]

/-! ## Sorting -/

/-- Parameters are compared name first. -/
theorem Parameter.le_iff {p q : Parameter} : p.le q = true ↔ toLex p ≤ toLex q := by
  rw [Prod.Lex.toLex_le_toLex, Parameter.le, Bool.or_eq_true, Bool.and_eq_true, Bool.not_eq_true',
    decide_eq_true_eq, decide_eq_true_eq, decide_eq_false_iff_not, not_lt]

/-- Parameters in any order are sorted into the same list. -/
theorem mergeSort_eq_of_perm {ps qs : List Parameter} (h : ps.Perm qs) :
    ps.mergeSort Parameter.le = qs.mergeSort Parameter.le := by
  have sorted : ∀ rs : List Parameter, (rs.mergeSort Parameter.le).Pairwise fun p q =>
      p.le q = true := by
    refine List.pairwise_mergeSort ?_ ?_
    · intro p q r hpq hqr
      rw [Parameter.le_iff] at *
      exact hpq.trans hqr
    · intro p q
      rw [Bool.or_eq_true, Parameter.le_iff, Parameter.le_iff]
      exact le_total _ _
  have antisymm : ∀ p q : Parameter, p.le q = true → q.le p = true → p = q := by
    intro p q hpq hqp
    rw [Parameter.le_iff] at hpq hqp
    exact toLex.injective (le_antisymm hpq hqp)
  exact List.Perm.eq_of_pairwise (fun p q _ _ => antisymm p q) (sorted ps) (sorted qs)
    ((List.mergeSort_perm _ _).trans (h.trans (List.mergeSort_perm _ _).symm))

/-! ## Pieces -/

/-- The pieces of a query that are not empty. -/
def fullPieces (query : List Char) : List (List Char) := (pieces '&' query).filter (· ≠ [])

/-- Whether two queries have the same pieces, in any order and with any empty pieces between
them. -/
def SamePieces (query other : List Char) : Prop := (fullPieces query).Perm (fullPieces other)

/-- The parameters of a query that are written with an `=`. -/
def assignments (query : List Char) : List Parameter := (pieces '&' query).filterMap (cut? '=')

theorem parameter?_eq (query : List Char) (name : String) :
    parameter? query name = ((assignments query).reverse.find? fun p => p.1 = name.toList).map
      fun p => Percent.decode p.2 := rfl

/-- An empty piece assigns nothing. -/
theorem assignments_eq (query : List Char) :
    assignments query = (fullPieces query).filterMap (cut? '=') := by
  rw [assignments, fullPieces, List.filterMap_filter]
  refine List.filterMap_congr fun piece _ => ?_
  cases piece <;> rfl

variable {query other : List Char}

theorem SamePieces.assignments_perm (h : SamePieces query other) :
    (assignments query).Perm (assignments other) := by
  rw [assignments_eq, assignments_eq]
  exact h.filterMap _

/-- The value of a parameter that is written once does not depend on the order. -/
theorem SamePieces.parameter?_eq (h : SamePieces query other) {name : String}
    (hone : (assignments query).countP (fun p => p.1 = name.toList) ≤ 1) :
    parameter? query name = parameter? other name := by
  have hreverse : (assignments query).reverse.Perm (assignments other).reverse :=
    (List.reverse_perm _).trans (h.assignments_perm.trans (List.reverse_perm _).symm)
  rw [Signing.parameter?_eq, Signing.parameter?_eq,
    find?_eq_of_perm hreverse (by rwa [List.countP_reverse])]

/-- The canonical query does not depend on the order. -/
theorem SamePieces.canonicalQuery_eq (h : SamePieces query other) :
    canonicalQuery query = canonicalQuery other := by
  have hsorted : sortedParameters query = sortedParameters other :=
    mergeSort_eq_of_perm (h.map Parameter.ofPiece)
  unfold canonicalQuery
  rw [hsorted]

/-- Leaving out the signature leaves all other pieces. -/
theorem fullPieces_unsignedQuery (query : List Char) :
    fullPieces (SignedRequest.unsignedQuery query) =
      (fullPieces query).filter fun piece => !"X-Amz-Signature=".toList.isPrefixOf piece := by
  unfold fullPieces SignedRequest.unsignedQuery
  rw [List.filter_comm]
  generalize hkept : (pieces '&' query).filter
    (fun piece => !"X-Amz-Signature=".toList.isPrefixOf piece) = kept
  by_cases hnil : kept = []
  · rw [hnil]
    rfl
  · have hclean : ∀ piece ∈ kept, '&' ∉ piece := by
      intro piece hpiece
      rw [← hkept] at hpiece
      exact not_mem_of_mem_pieces (List.mem_filter.mp hpiece).1
    rw [pieces_join hnil hclean]

theorem SamePieces.unsignedQuery (h : SamePieces query other) :
    SamePieces (SignedRequest.unsignedQuery query) (SignedRequest.unsignedQuery other) := by
  unfold SamePieces
  rw [fullPieces_unsignedQuery, fullPieces_unsignedQuery]
  exact h.filter _

/-- A separator at the start only adds an empty piece. -/
theorem fullPieces_separator (query : List Char) :
    fullPieces ('&' :: query) = fullPieces query := by
  rw [fullPieces, pieces, if_pos rfl]
  rfl

/-- Parameters that are written in another order have the same pieces. -/
theorem samePieces_writtenQuery {ps qs : List Parameter} (h : ps.Perm qs)
    (hclean : ∀ p ∈ ps, p.Clean) : SamePieces (writtenQuery ps) (writtenQuery qs) := by
  by_cases hnil : ps = []
  · subst hnil
    rw [h.nil_eq]
    exact List.Perm.refl _
  · have hqs : qs ≠ [] := fun hqs => hnil (hqs ▸ h).eq_nil
    unfold SamePieces fullPieces
    rw [pieces_writtenQuery hnil hclean,
      pieces_writtenQuery hqs fun p hp => hclean p (h.mem_iff.mpr hp)]
    exact (h.map _).filter _

/-! ## Verification -/

/-- What is read from a query follows from the values of the six parameters. -/
theorem SignedParameters.ofQuery_congr
    (h : ∀ name : String, name.toList ∈ PresignRequest.parameterNames →
      parameter? query name = parameter? other name) :
    SignedParameters.ofQuery query = SignedParameters.ofQuery other := by
  have hrequired : ∀ name : String, name.toList ∈ PresignRequest.parameterNames →
      required query name = required other name := by
    intro name hname
    rw [required, required, h name hname]
  rw [ofQuery, ofQuery, hrequired "X-Amz-Algorithm" (by decide),
    hrequired "X-Amz-Credential" (by decide), hrequired "X-Amz-Date" (by decide),
    hrequired "X-Amz-Expires" (by decide), hrequired "X-Amz-SignedHeaders" (by decide),
    hrequired "X-Amz-Signature" (by decide)]

namespace SignedRequest

/-- The verdict on a request follows from what is read from its query and from the canonical query
without the signature. -/
theorem verify_congr (r : SignedRequest) {query : String}
    (hread : SignedParameters.ofQuery query.toList = SignedParameters.ofQuery r.query.toList)
    (hquery : canonicalQuery (unsignedQuery query.toList) =
      canonicalQuery (unsignedQuery r.query.toList)) (keyring : Keyring) (now : Instant) :
    { r with query := query }.verify keyring now = r.verify keyring now := by
  have hexpected : ∀ p headers secret,
      { r with query := query }.expectedSignature p headers secret =
        r.expectedSignature p headers secret := by
    intro p headers secret
    simp only [expectedSignature, Request.canonical, hquery]
  have hcheck : ∀ p expiresAt, { r with query := query }.checkSignature p keyring expiresAt =
      r.checkSignature p keyring expiresAt := by
    intro p expiresAt
    simp only [checkSignature, hexpected]
  simp only [verify, hread, hcheck]

/-- **The order of a query does not matter.**  If each of the six names of authentication stands at
most once before the first `=` of a piece, then every query with the same pieces, in any order and
with empty pieces put in or left out, gets the same verdict from every keyring at every instant. -/
theorem verify_of_samePieces {r : SignedRequest} {query : String}
    (hone : ∀ name ∈ PresignRequest.parameterNames,
      (assignments r.query.toList).countP (fun p => p.1 = name) ≤ 1)
    (hsame : SamePieces r.query.toList query.toList) (keyring : Keyring) (now : Instant) :
    { r with query := query }.verify keyring now = r.verify keyring now := by
  have hread : SignedParameters.ofQuery r.query.toList = SignedParameters.ofQuery query.toList :=
    SignedParameters.ofQuery_congr fun name hname => hsame.parameter?_eq (hone _ hname)
  exact r.verify_congr hread.symm hsame.unsignedQuery.canonicalQuery_eq.symm keyring now

/-- The parameters of the example with their signature. -/
def exampleParameters : List Parameter :=
  exampleRequest.signedParameters
    (exampleRequest.signatureFor ⟨"https", some (.name exampleHost), none, ['/']⟩ exampleHost)

/-- The theorem at the example, with the signature first and an empty piece before it: the request
is accepted in either order. -/
theorem verify_of_samePieces_reversed :
    let turned := String.ofList ('&' :: writtenQuery exampleParameters.reverse)
    ∃ signer, exampleSigned.verify exampleKeyring exampleEnd = .accepted signer ∧
      { exampleSigned with query := turned }.verify exampleKeyring exampleEnd =
        .accepted signer := by
  intro turned
  have hclean : ∀ p ∈ exampleParameters, p.Clean := fun _ =>
    PresignRequest.clean_of_mem_signedParameters
  have hquery : exampleSigned.query.toList = writtenQuery exampleParameters :=
    String.toList_ofList.trans <|
      exampleRequest.signedQuery_eq fun _ => PresignRequest.isUnreserved_of_mem_signatureFor
  have hone : ∀ name ∈ PresignRequest.parameterNames,
      (assignments exampleSigned.query.toList).countP (fun p => p.1 = name) ≤ 1 := by
    rw [hquery, assignments, cut?_pieces_writtenQuery hclean]
    decide
  have hsame : SamePieces exampleSigned.query.toList turned.toList := by
    rw [hquery, String.toList_ofList, SamePieces, fullPieces_separator]
    exact samePieces_writtenQuery (List.reverse_perm _).symm hclean
  obtain ⟨p, -, -, -, hverify⟩ := verify_exampleSigned
  obtain ⟨signer, haccepted⟩ := hverify exampleEnd (Or.inr rfl)
  exact ⟨signer, haccepted, (verify_of_samePieces hone hsame _ _).trans haccepted⟩

end SignedRequest

end ObjectAccess.Signing
