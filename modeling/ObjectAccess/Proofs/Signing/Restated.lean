import ObjectAccess.Proofs.Signing.QueryOrder

/-!
# Signing a request for something else

A parameter of a query can be given another value and everything else be left as it is
(`parameter?_withParameter`).  So a request that can be read can be made to name another signer,
another scope and other signed headers.  The signature is not part of what is signed: it can be set
to the one that the secret of the named signer makes, and then the request is accepted until it
expires (`exists_restated`).
-/

namespace ObjectAccess.Signing

set_option autoImplicit false

open ObjectAccess.Text ObjectAccess.Time

/-! ## Setting a parameter -/

/-- The piece that sets a parameter, in place of one that sets it to something else. -/
def reassigned (name value piece : List Char) : List Char :=
  match cut? '=' piece with
  | some (found, _) => if found = name then name ++ '=' :: Percent.encode value else piece
  | none => piece

/-- The query in which a parameter that is there has another value. -/
def withParameter (name value query : List Char) : List Char :=
  join '&' ((pieces '&' query).map (reassigned name value))

variable {name value query : List Char}

theorem reassigned_of_cut?_ne {piece found rest : List Char}
    (h : cut? '=' piece = some (found, rest)) (hne : found ≠ name) :
    reassigned name value piece = piece := by
  rw [reassigned, h]
  exact if_neg hne

theorem reassigned_of_cut? {piece rest : List Char} (h : cut? '=' piece = some (name, rest)) :
    reassigned name value piece = name ++ '=' :: Percent.encode value := by
  rw [reassigned, h]
  exact if_pos rfl

theorem reassigned_of_cut?_none {piece : List Char} (h : cut? '=' piece = none) :
    reassigned name value piece = piece := by
  rw [reassigned, h]

/-- A piece that sets the parameter is read as the new value, and any other piece as before. -/
theorem cut?_reassigned (piece : List Char) :
    cut? '=' (reassigned name value piece) = (cut? '=' piece).map fun p =>
      if p.1 = name then (name, Percent.encode value) else p := by
  cases hcut : cut? '=' piece with
  | none => rw [reassigned_of_cut?_none hcut, hcut, Option.map_none]
  | some p =>
      obtain ⟨found, rest⟩ := p
      by_cases hfound : found = name
      · subst hfound
        have hclean : '=' ∉ found := (cut?_eq_some_iff.mp hcut).2
        rw [reassigned_of_cut? hcut, cut?_append _ hclean, Option.map_some, if_pos rfl]
      · rw [reassigned_of_cut?_ne hcut hfound, hcut, Option.map_some, if_neg hfound]

theorem pieces_withParameter (hname : '&' ∉ name) (value query : List Char) :
    pieces '&' (withParameter name value query) =
      (pieces '&' query).map (reassigned name value) := by
  refine pieces_join (by simpa using pieces_ne_nil '&' query) fun text htext => ?_
  obtain ⟨piece, hpiece, rfl⟩ := List.mem_map.mp htext
  have hkept : '&' ∉ piece := not_mem_of_mem_pieces hpiece
  have hencoded : '&' ∉ Percent.encode value := Percent.not_mem_encode (by decide) (by decide) value
  unfold reassigned
  split
  · split
    · simp [hname, hencoded]
    · exact hkept
  · exact hkept

theorem assignments_withParameter (hname : '&' ∉ name) (value query : List Char) :
    assignments (withParameter name value query) = (assignments query).map fun p =>
      if p.1 = name then (name, Percent.encode value) else p := by
  rw [assignments, pieces_withParameter hname, List.filterMap_map, assignments,
    List.map_filterMap]
  exact List.filterMap_congr fun piece _ => cut?_reassigned piece

/-- Setting a parameter that is there changes its value and no other. -/
theorem parameter?_withParameter (hname : '&' ∉ name) (value query : List Char) (other : String) :
    parameter? (withParameter name value query) other =
      if other.toList = name then (parameter? query other).map fun _ => value
      else parameter? query other := by
  have hsame : ((fun p : Parameter => decide (p.1 = other.toList)) ∘ fun p =>
      if p.1 = name then (name, Percent.encode value) else p) =
        fun p => decide (p.1 = other.toList) := by
    funext p
    by_cases hp : p.1 = name <;> simp [hp]
  have hfound : ∀ p ∈ (assignments query).reverse.find? fun p => decide (p.1 = other.toList),
      p.1 = other.toList := fun p hp => by simpa using List.find?_some hp
  rw [parameter?_eq, parameter?_eq, assignments_withParameter hname, ← List.map_reverse,
    List.find?_map, hsame, Option.map_map, Option.map_map]
  cases hfind : (assignments query).reverse.find? fun p => decide (p.1 = other.toList) with
  | none => simp
  | some p =>
      have hp := hfound p hfind
      split
      · next hother => simp [hp, hother, Percent.decode_encode]
      · next hother => simp [hp, hother]

/-! ## The signature -/

/-- The pieces that are left out before signing are those that set the signature. -/
theorem isSignature_iff {piece : List Char} :
    "X-Amz-Signature=".toList.isPrefixOf piece = true ↔
      ∃ rest, cut? '=' piece = some ("X-Amz-Signature".toList, rest) := by
  have hclean : '=' ∉ "X-Amz-Signature".toList := by decide
  have hname : "X-Amz-Signature=".toList = "X-Amz-Signature".toList ++ ['='] := by decide
  rw [List.isPrefixOf_iff_prefix, hname]
  constructor
  · rintro ⟨rest, rfl⟩
    rw [List.append_assoc]
    exact ⟨rest, cut?_append rest hclean⟩
  · rintro ⟨rest, hcut⟩
    rw [(cut?_eq_some_iff.mp hcut).1]
    exact ⟨rest, List.append_assoc ..⟩

/-- A piece sets the signature before it is changed just if it does so afterwards, and other pieces
are not changed. -/
theorem isSignature_reassigned (value piece : List Char) :
    "X-Amz-Signature=".toList.isPrefixOf (reassigned "X-Amz-Signature".toList value piece) =
      "X-Amz-Signature=".toList.isPrefixOf piece ∧
    ("X-Amz-Signature=".toList.isPrefixOf piece = false →
      reassigned "X-Amz-Signature".toList value piece = piece) := by
  cases hcut : cut? '=' piece with
  | none => rw [reassigned_of_cut?_none hcut]; exact ⟨rfl, fun _ => rfl⟩
  | some p =>
      obtain ⟨found, rest⟩ := p
      by_cases hfound : found = "X-Amz-Signature".toList
      · subst hfound
        have hbefore := isSignature_iff.mpr ⟨rest, hcut⟩
        rw [hbefore, reassigned_of_cut? hcut, isSignature_iff.mpr ⟨_, cut?_append _ (by decide)⟩]
        simp
      · rw [reassigned_of_cut?_ne hcut hfound]
        exact ⟨rfl, fun _ => rfl⟩

namespace SignedRequest

/-- What is signed does not depend on the signature. -/
theorem unsignedQuery_withParameter (value query : List Char) :
    unsignedQuery (withParameter "X-Amz-Signature".toList value query) = unsignedQuery query := by
  unfold unsignedQuery
  rw [pieces_withParameter (by decide), List.filter_map]
  have hsame : ((fun piece => !"X-Amz-Signature=".toList.isPrefixOf piece) ∘
      reassigned "X-Amz-Signature".toList value) =
        fun piece => !"X-Amz-Signature=".toList.isPrefixOf piece :=
    funext fun piece => congrArg (!·) (isSignature_reassigned value piece).1
  rw [hsame]
  refine congrArg (join '&') ((List.map_congr_left fun piece hpiece => ?_).trans (List.map_id _))
  refine (isSignature_reassigned value piece).2 ?_
  simpa using (List.mem_filter.mp hpiece).2

end SignedRequest

/-! ## Other parameters -/

namespace SignedParameters

/-- The text of a credential. -/
def credential (p : SignedParameters) : List Char := p.accessKey ++ '/' :: p.scope.text

/-- Parameters whose parts keep to their places when they are written. -/
structure Writable (p : SignedParameters) : Prop where
  slash_not_mem : ∀ part ∈ [p.accessKey, p.scope.date, p.scope.region, p.scope.service], '/' ∉ part
  signedHeaders_ne_nil : p.signedHeaders ≠ []
  semicolon_not_mem : ∀ name ∈ p.signedHeaders, ';' ∉ name

variable {p q : SignedParameters} {query : List Char}

/-- What can be read can be written. -/
theorem ReadFrom.writable (h : p.ReadFrom query) : p.Writable := by
  obtain ⟨credential, -, hparts⟩ := h.namesSigner
  obtain ⟨names, -, hnames⟩ := h.namesHeaders
  obtain ⟨firsts, last, hpieces, -, hclean⟩ := exists_piecesUpTo '/' 4 credential
  have hsame : [p.accessKey, p.scope.date, p.scope.region, p.scope.service] ++ [scopeEnd] =
      firsts ++ [last] := hparts.symm.trans hpieces
  obtain ⟨rfl, -⟩ := List.append_inj' hsame rfl
  exact ⟨hclean, hnames ▸ pieces_ne_nil ';' names, fun name => hnames ▸ not_mem_of_mem_pieces⟩

theorem Writable.piecesUpTo_credential (h : p.Writable) :
    piecesUpTo '/' 5 p.credential =
      [p.accessKey, p.scope.date, p.scope.region, p.scope.service, scopeEnd] := by
  have hclean := h.slash_not_mem
  simp only [List.forall_mem_cons] at hclean
  obtain ⟨hkey, hdate, hregion, hservice, -⟩ := hclean
  exact PresignRequest.piecesUpTo_credential hkey hdate hregion hservice

end SignedParameters

namespace SignedRequest

variable {r : SignedRequest} {p q : SignedParameters}

/-- The request with the signer, the scope, the signed headers and the signature of other
parameters. -/
def restated (r : SignedRequest) (q : SignedParameters) : SignedRequest :=
  { r with
    query := String.ofList <| withParameter "X-Amz-Signature".toList q.signature <|
      withParameter "X-Amz-SignedHeaders".toList (join ';' q.signedHeaders) <|
      withParameter "X-Amz-Credential".toList q.credential r.query.toList }

@[simp] theorem restated_headers (r : SignedRequest) (q : SignedParameters) :
    (r.restated q).headers = r.headers := by
  rw [restated]

/-- The request says what it is made to say, if its time is left as it is. -/
theorem ofQuery_restated (hread : SignedParameters.ofQuery r.query.toList = .ok p)
    (hq : q.Writable) (hsignedAt : q.signedAt = p.signedAt)
    (hexpiresIn : q.expiresIn = p.expiresIn) :
    SignedParameters.ofQuery (r.restated q).query.toList = .ok q := by
  have hfrom := SignedParameters.ofQuery_eq_ok_iff.mp hread
  obtain ⟨_, hcredential, -⟩ := hfrom.namesSigner
  obtain ⟨_, hnames, -⟩ := hfrom.namesHeaders
  have hvalue : ∀ name : String, parameter? (r.restated q).query.toList name =
      if name.toList = "X-Amz-Signature".toList then
        (parameter? r.query.toList name).map fun _ => q.signature
      else if name.toList = "X-Amz-SignedHeaders".toList then
        (parameter? r.query.toList name).map fun _ => join ';' q.signedHeaders
      else if name.toList = "X-Amz-Credential".toList then
        (parameter? r.query.toList name).map fun _ => q.credential
      else parameter? r.query.toList name := by
    intro name
    rw [restated, String.toList_ofList, parameter?_withParameter (by decide),
      parameter?_withParameter (by decide), parameter?_withParameter (by decide)]
    split_ifs <;> simp_all
  refine SignedParameters.ofQuery_eq_ok_iff.mpr ⟨?_, ?_, ?_, ?_, ?_, ?_, ?_⟩
  · exact (hvalue _).trans hfrom.usesAlgorithm
  · exact ⟨_, (hvalue _).trans (congrArg (Option.map fun _ => _) hcredential),
      hq.piecesUpTo_credential⟩
  · exact hsignedAt ▸ hfrom.namesTime.imp fun _ h => ⟨(hvalue _).trans h.1, h.2⟩
  · exact hexpiresIn ▸ hfrom.namesExpiry.imp fun _ h => ⟨(hvalue _).trans h.1, h.2⟩
  · exact hexpiresIn ▸ hfrom.limited
  · exact ⟨_, (hvalue _).trans (congrArg (Option.map fun _ => _) hnames),
      pieces_join hq.signedHeaders_ne_nil hq.semicolon_not_mem⟩
  · exact (hvalue _).trans (congrArg (Option.map fun _ => _) hfrom.signed)

/-- The signature that is expected does not depend on the one that is stated. -/
theorem expectedSignature_signed (signature : List Char) (headers : List Header)
    (secret : List Char) :
    r.expectedSignature { q with signature := signature } headers secret =
      r.expectedSignature q headers secret := by
  unfold expectedSignature
  rfl

/-- It does not depend on the one in the query either. -/
theorem expectedSignature_restated (signature : List Char) (headers : List Header)
    (secret : List Char) :
    (r.restated { q with signature := signature }).expectedSignature q headers secret =
      (r.restated q).expectedSignature q headers secret := by
  unfold expectedSignature restated
  simp only [String.toList_ofList, unsignedQuery_withParameter]
  rfl

/-- **A request can be signed for other parameters.**  They have to be such that they can be
written, with the time and the validity of the request, a signer who is known and headers that are
there. -/
theorem exists_restated {headers : List Header} {secret : String} {keyring : Keyring}
    {expiresAt : Instant} (hread : SignedParameters.ofQuery r.query.toList = .ok p)
    (hq : q.Writable) (hsignedAt : q.signedAt = p.signedAt) (hexpiresIn : q.expiresIn = p.expiresIn)
    (hsecret : keyring (String.ofList q.accessKey) = .ok secret)
    (hheaders : collectHeaders r.headers q.signedHeaders = .ok headers)
    (hexpires : p.expiresAt? = some expiresAt) :
    ∃ (query : String) (signature : List Char),
      SignedParameters.ofQuery query.toList = .ok { q with signature := signature } ∧
      signature = { r with query := query }.expectedSignature q headers secret.toList ∧
      ∀ now, { r with query := query }.verify keyring now =
        if expiresAt.isBefore now then .refused .expired
        else .accepted ⟨String.ofList q.accessKey, String.ofList q.scope.region,
          String.ofList q.scope.service, expiresAt⟩ := by
  have hsigned := expectedSignature_restated (r := r) (q := q)
    ((r.restated q).expectedSignature q headers secret.toList) headers secret.toList
  generalize (r.restated q).expectedSignature q headers secret.toList = made at hsigned
  have hmade : SignedParameters.ofQuery
      (r.restated { q with signature := made }).query.toList = .ok { q with signature := made } :=
    ofQuery_restated hread ⟨hq.slash_not_mem, hq.signedHeaders_ne_nil, hq.semicolon_not_mem⟩
      hsignedAt hexpiresIn
  have hexpiry : q.expiresAt? = some expiresAt := by
    rw [← hexpires, SignedParameters.expiresAt?, SignedParameters.expiresAt?, hsignedAt, hexpiresIn]
  have hchecked : (r.restated { q with signature := made }).checkSignature
      { q with signature := made } keyring expiresAt =
        .ok ⟨String.ofList q.accessKey, String.ofList q.scope.region,
          String.ofList q.scope.service, expiresAt⟩ := by
    refine checkSignature_eq_ok_iff.mpr ⟨secret, headers, hsecret, ?_, ?_, rfl⟩
    · rw [restated_headers, hheaders]
    · rw [expectedSignature_signed, hsigned]
  refine ⟨_, made, hmade, hsigned.symm, fun now => ?_⟩
  exact verify_of_checkSignature hmade hexpiry hchecked now

end SignedRequest

end ObjectAccess.Signing
