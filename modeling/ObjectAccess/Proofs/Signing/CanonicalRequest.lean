import ObjectAccess.Proofs.Percent
import ObjectAccess.Signing.CanonicalRequest

/-!
# The canonical text binds the request

Two requests have the same canonical text only if they agree in everything that is
signed (`canonical_binds`): the method, the decoded segments of the path, the parameters
of the query in any order, the signed names, their normalised values, and the payload
hash.

The text is a list of lines joined by line breaks, in the middle of which stands one line
for each signed header.  No line holds a line break, because paths are escaped and header
values have their white space collapsed, so the lines can be read off the text.  There
are three lines before the headers and three after them, which tells where the headers
start and end.  Each line is then read in the same way: a path at its slashes, a query at
its `&` and each parameter at its first `=`, a header at its first `:`.
-/

namespace ObjectAccess.Signing

set_option autoImplicit false

open ObjectAccess.Text

/-! ## What is signed -/

namespace Request

/-- The decoded segments of the path; the empty path is the root. -/
def segments (r : Request) : List (List Char) :=
  (pieces '/' (if r.path = [] then ['/'] else r.path)).map Percent.decode

/-- The parameters of the query as they are written, without empty pieces. -/
def parameters (r : Request) : List Parameter :=
  ((pieces '&' r.query).filter (· ≠ [])).map Parameter.ofPiece

/-- A request whose parts keep to their lines, with signed names that are in lower case,
different, and names of headers that it has. -/
structure WellFormed (r : Request) : Prop where
  method_line : '\n' ∉ r.method
  query_line : '\n' ∉ r.query
  payloadHash_line : '\n' ∉ r.payloadHash
  lowered : ∀ name ∈ r.signed, lower name = name
  distinct : r.signed.Nodup
  clean : ∀ name ∈ r.signed, '\n' ∉ name ∧ ';' ∉ name ∧ ':' ∉ name
  present : ∀ name ∈ r.signed, ∃ h ∈ r.headers, lower h.1 = lower name

end Request

/-! ## Path -/

/-- The canonical path consists of the decoded segments, encoded again. -/
theorem canonicalPath_eq (r : Request) :
    canonicalPath r.path = join '/' (r.segments.map Percent.encode) := by
  have hroot : join '/' (((pieces '/' ['/']).map Percent.decode).map Percent.encode) = ['/'] := by
    decide
  unfold canonicalPath Request.segments
  split
  · next h =>
      rcases h with h | h
      · rw [if_pos h, hroot]
      · rw [h, if_neg (by decide), hroot]
  · next h =>
      rw [if_neg fun hempty => h (Or.inl hempty), List.map_map]
      rfl

theorem lineBreak_not_mem_canonicalPath (r : Request) : '\n' ∉ canonicalPath r.path := by
  rw [canonicalPath_eq]
  refine not_mem_join (by decide) fun p hp => ?_
  obtain ⟨segment, _, rfl⟩ := List.mem_map.mp hp
  exact Percent.not_mem_encode (by decide) (by decide) segment

/-- The canonical path determines the decoded segments. -/
theorem segments_of_canonicalPath {a b : Request}
    (h : canonicalPath a.path = canonicalPath b.path) : a.segments = b.segments := by
  have full : ∀ r : Request, r.segments.map Percent.encode ≠ [] := fun r => by
    simp [Request.segments, pieces_ne_nil]
  have clean : ∀ r : Request, ∀ p ∈ r.segments.map Percent.encode, '/' ∉ p := fun r p hp => by
    obtain ⟨segment, _, rfl⟩ := List.mem_map.mp hp
    exact Percent.not_mem_encode (by decide) (by decide) segment
  rw [canonicalPath_eq, canonicalPath_eq] at h
  have hencoded := join_injective (full a) (full b) (clean a) (clean b) h
  exact List.map_inj_right (fun _ _ => Percent.encode_injective) |>.mp hencoded

/-! ## Query -/

/-- The name of a parameter holds no `=`. -/
theorem Parameter.equals_not_mem_ofPiece (piece : List Char) :
    '=' ∉ (Parameter.ofPiece piece).1 := by
  unfold Parameter.ofPiece
  cases h : cut? '=' piece with
  | none => exact cut?_eq_none_iff.mp h
  | some p => exact (cut?_eq_some_iff.mp h).2

/-- A parameter holds nothing that its piece does not. -/
theorem Parameter.mem_of_mem_ofPiece {c : Char} {piece : List Char}
    (h : c ∈ (Parameter.ofPiece piece).1 ∨ c ∈ (Parameter.ofPiece piece).2) : c ∈ piece := by
  unfold Parameter.ofPiece at h
  cases hcut : cut? '=' piece with
  | none => simpa [hcut] using h
  | some p =>
      rw [(cut?_eq_some_iff.mp hcut).1]
      simp only [hcut, Option.getD_some] at h
      rcases h with h | h
      · exact List.mem_append_left _ h
      · exact List.mem_append_right _ (List.mem_cons_of_mem _ h)

/-- A parameter is read off its text at the first `=`. -/
theorem Parameter.cut?_text {p : Parameter} (h : '=' ∉ p.1) : cut? '=' p.text = some p :=
  cut?_append p.2 h

theorem sortedParameters_perm (r : Request) : (sortedParameters r.query).Perm r.parameters :=
  List.mergeSort_perm _ _

/-- Whatever stands in a sorted parameter stands in the query, between `&` and with a name
before the first `=`. -/
theorem exists_piece_of_mem_sortedParameters {query : List Char} {p : Parameter}
    (h : p ∈ sortedParameters query) : ∃ piece ∈ pieces '&' query, Parameter.ofPiece piece = p := by
  obtain ⟨piece, hpiece, hp⟩ := List.mem_map.mp ((List.mergeSort_perm _ _).mem_iff.mp h)
  exact ⟨piece, (List.mem_filter.mp hpiece).1, hp⟩

theorem not_mem_parameterText {c : Char} {query : List Char} {p : Parameter}
    (hp : p ∈ sortedParameters query) (hequals : c ≠ '=')
    (hc : ∀ piece ∈ pieces '&' query, c ∉ piece) : c ∉ p.text := by
  obtain ⟨piece, hpiece, rfl⟩ := exists_piece_of_mem_sortedParameters hp
  intro hmem
  rcases List.mem_append.mp hmem with hmem | hmem
  · exact hc piece hpiece (Parameter.mem_of_mem_ofPiece (Or.inl hmem))
  · rcases List.mem_cons.mp hmem with hmem | hmem
    · exact hequals hmem
    · exact hc piece hpiece (Parameter.mem_of_mem_ofPiece (Or.inr hmem))

theorem lineBreak_not_mem_canonicalQuery {query : List Char} (h : '\n' ∉ query) :
    '\n' ∉ canonicalQuery query := by
  refine not_mem_join (by decide) fun text htext => ?_
  obtain ⟨p, hp, rfl⟩ := List.mem_map.mp htext
  exact not_mem_parameterText hp (by decide) fun piece hpiece hc => h (mem_of_mem_pieces hpiece hc)

/-- The canonical query determines the parameters in order. -/
theorem sortedParameters_of_canonicalQuery {q₁ q₂ : List Char}
    (h : canonicalQuery q₁ = canonicalQuery q₂) : sortedParameters q₁ = sortedParameters q₂ := by
  have full : ∀ q, [] ∉ (sortedParameters q).map Parameter.text := fun q hmem => by
    obtain ⟨p, _, hp⟩ := List.mem_map.mp hmem
    simp [Parameter.text] at hp
  have clean : ∀ q, ∀ text ∈ (sortedParameters q).map Parameter.text, '&' ∉ text :=
    fun q text htext => by
      obtain ⟨p, hp, rfl⟩ := List.mem_map.mp htext
      exact not_mem_parameterText hp (by decide) fun piece => not_mem_of_mem_pieces
  have read : ∀ q, ((sortedParameters q).map Parameter.text).map (cut? '=') =
      (sortedParameters q).map some := fun q => by
    rw [List.map_map]
    refine List.map_congr_left fun p hp => ?_
    obtain ⟨piece, _, rfl⟩ := exists_piece_of_mem_sortedParameters hp
    exact Parameter.cut?_text (Parameter.equals_not_mem_ofPiece piece)
  have htexts := join_injective_of_ne_nil (full q₁) (full q₂) (clean q₁) (clean q₂) h
  have hsome : (sortedParameters q₁).map some = (sortedParameters q₂).map some := by
    rw [← read q₁, ← read q₂, htexts]
  exact List.map_inj_right (fun _ _ => Option.some.inj) |>.mp hsome

/-! ## Headers -/

theorem sortNames_perm (names : List (List Char)) : (sortNames names).Perm names :=
  List.mergeSort_perm _ _

/-- A line of a signed header. -/
def headerLine (headers : List Header) (name : List Char) : Option (List Char) :=
  (headerValue? headers name).map fun value => name ++ ':' :: value

/-- The signed names in order, each with its value. -/
def signedHeaders (r : Request) : List Header :=
  (sortNames r.signed).map fun name => (name, (headerValue? r.headers name).getD [])

/-- The lines of the signed headers in order. -/
def headerLines (r : Request) : List (List Char) :=
  (sortNames r.signed).filterMap (headerLine r.headers)

theorem canonicalHeaders_eq (r : Request) :
    canonicalHeaders r.headers r.signed = join '\n' (headerLines r) := rfl

/-- A header that is there has a value, and the value keeps to its line. -/
theorem exists_headerValue {headers : List Header} {name : List Char}
    (h : ∃ header ∈ headers, lower header.1 = name) :
    ∃ value, headerValue? headers name = some value ∧ '\n' ∉ value := by
  obtain ⟨header, hmem, hname⟩ := h
  have hmem' : header ∈ headers.filter fun h => lower h.1 = name :=
    List.mem_filter.mpr ⟨hmem, by simpa using hname⟩
  unfold headerValue?
  split
  · next hnil =>
      rw [List.map_eq_nil_iff] at hnil
      exact absurd (hnil ▸ hmem') List.not_mem_nil
  · refine ⟨_, rfl, not_mem_join (by decide) fun value hvalue => ?_⟩
    obtain ⟨other, _, rfl⟩ := List.mem_map.mp hvalue
    exact not_mem_collapse (by decide) (by decide) _

namespace Request.WellFormed

variable {r : Request} (wf : r.WellFormed)
include wf

theorem exists_value {name : List Char} (h : name ∈ r.signed) :
    ∃ value, headerValue? r.headers name = some value ∧ '\n' ∉ value := by
  obtain ⟨header, hmem, hname⟩ := wf.present name h
  exact exists_headerValue ⟨header, hmem, hname.trans (wf.lowered name h)⟩

/-- Reading the header lines at their first `:` gives the signed names with their values. -/
theorem cut?_headerLines : (headerLines r).map (cut? ':') = (signedHeaders r).map some := by
  have hsigned : ∀ name ∈ sortNames r.signed, name ∈ r.signed := fun name =>
    (sortNames_perm r.signed).mem_iff.mp
  unfold headerLines signedHeaders
  generalize sortNames r.signed = names at hsigned
  induction names with
  | nil => rfl
  | cons name others ih =>
      have hname : name ∈ r.signed := hsigned name (List.mem_cons_self ..)
      obtain ⟨value, hvalue, -⟩ := wf.exists_value hname
      have hline : headerLine r.headers name = some (name ++ ':' :: value) := by
        rw [headerLine, hvalue]
        rfl
      rw [List.filterMap_cons, hline]
      simp only [List.map_cons]
      rw [cut?_append value (wf.clean name hname).2.2, hvalue,
        ih fun other h => hsigned other (List.mem_cons_of_mem _ h)]
      rfl

theorem headerLines_clean : ∀ line ∈ headerLines r, '\n' ∉ line ∧ line ≠ [] := by
  intro line hline
  obtain ⟨name, hmem, hname⟩ := List.mem_filterMap.mp hline
  have hsigned : name ∈ r.signed := (sortNames_perm r.signed).mem_iff.mp hmem
  obtain ⟨value, hvalue, hclean⟩ := wf.exists_value hsigned
  rw [headerLine, hvalue, Option.map_some, Option.some.injEq] at hname
  subst hname
  have hcolon : '\n' ≠ ':' := by decide
  exact ⟨by simp [(wf.clean name hsigned).1, hclean, hcolon], by simp⟩

end Request.WellFormed

/-! ## Lines -/

/-- The lines of the header part, of which there is one even without signed headers. -/
def headerPart (r : Request) : List (List Char) :=
  if headerLines r = [] then [[]] else headerLines r

theorem headerPart_ne_nil (r : Request) : headerPart r ≠ [] := by
  unfold headerPart
  split
  · simp
  · next h => exact h

theorem join_headerPart (r : Request) :
    join '\n' (headerPart r) = canonicalHeaders r.headers r.signed := by
  rw [canonicalHeaders_eq, headerPart]
  split
  · next h => rw [h]; rfl
  · rfl

/-- The lines of the canonical text: three, then the header part, then three. -/
def Request.lines (r : Request) : List (List Char) :=
  r.method :: canonicalPath r.path :: canonicalQuery r.query ::
    (headerPart r ++ [[], signedHeaderNames r.signed, r.payloadHash])

/-- The canonical text consists of its lines. -/
theorem Request.canonical_eq_join (r : Request) : r.canonical = join '\n' r.lines := by
  have htail : headerPart r ++ [[], signedHeaderNames r.signed, r.payloadHash] ≠ [] := by simp
  rw [Request.lines, join_cons _ (List.cons_ne_nil _ _), join_cons _ (List.cons_ne_nil _ _),
    join_cons _ htail, join_append (headerPart_ne_nil r) (List.cons_ne_nil _ _), join_headerPart]
  rfl

namespace Request.WellFormed

variable {r : Request} (wf : r.WellFormed)
include wf

theorem lines_clean : ∀ line ∈ r.lines, '\n' ∉ line := by
  have hnames : '\n' ∉ signedHeaderNames r.signed := not_mem_join (by decide) fun name hname =>
    (wf.clean name ((sortNames_perm r.signed).mem_iff.mp hname)).1
  have hpart : ∀ line ∈ headerPart r, '\n' ∉ line := by
    intro line hline
    unfold headerPart at hline
    split at hline
    · simp [List.mem_singleton.mp hline]
    · exact (wf.headerLines_clean line hline).1
  intro line hline
  simp only [Request.lines, List.mem_cons, List.mem_append, List.not_mem_nil, or_false] at hline
  rcases hline with rfl | rfl | rfl | hline | rfl | rfl | rfl
  · exact wf.method_line
  · exact lineBreak_not_mem_canonicalPath r
  · exact lineBreak_not_mem_canonicalQuery wf.query_line
  · exact hpart line hline
  · simp
  · exact hnames
  · exact wf.payloadHash_line

end Request.WellFormed

/-- The header part determines the signed names and their values: no header line is empty. -/
theorem signedHeaders_of_headerPart {a b : Request} (ha : a.WellFormed) (hb : b.WellFormed)
    (h : headerPart a = headerPart b) : signedHeaders a = signedHeaders b := by
  have nonempty : ∀ {r : Request}, r.WellFormed → headerLines r ≠ [[]] := fun wf hempty =>
    (wf.headerLines_clean [] (hempty ▸ List.mem_cons_self ..)).2 rfl
  have hlines : headerLines a = headerLines b := by
    unfold headerPart at h
    split at h
    · next hnilA =>
        split at h
        · next hnilB => rw [hnilA, hnilB]
        · exact absurd h.symm (nonempty hb)
    · split at h
      · exact absurd h (nonempty ha)
      · exact h
  have hsome : (signedHeaders a).map some = (signedHeaders b).map some := by
    rw [← ha.cut?_headerLines, hlines, hb.cut?_headerLines]
  exact List.map_inj_right (fun _ _ => Option.some.inj) |>.mp hsome

theorem signed_perm_of_signedHeaders {a b : Request} (h : signedHeaders a = signedHeaders b) :
    a.signed.Perm b.signed := by
  have names : ∀ r : Request, (signedHeaders r).map (·.1) = sortNames r.signed := fun r => by
    rw [signedHeaders, List.map_map]
    exact List.map_id _
  have hnames : sortNames a.signed = sortNames b.signed := by rw [← names a, h, names b]
  exact (sortNames_perm a.signed).symm.trans (hnames ▸ sortNames_perm b.signed)

theorem headerValue?_of_signedHeaders {a b : Request} (ha : a.WellFormed) (hb : b.WellFormed)
    (h : signedHeaders a = signedHeaders b) {name : List Char} (hname : name ∈ a.signed) :
    ∃ value, headerValue? a.headers name = some value ∧
      headerValue? b.headers name = some value := by
  obtain ⟨value, hvalue, -⟩ := ha.exists_value hname
  have hmem : (name, (headerValue? a.headers name).getD []) ∈ signedHeaders b := by
    rw [← h]
    exact List.mem_map_of_mem ((sortNames_perm a.signed).mem_iff.mpr hname)
  obtain ⟨other, hother, heq⟩ := List.mem_map.mp hmem
  simp only [Prod.mk.injEq] at heq
  obtain ⟨rfl, hsame⟩ := heq
  obtain ⟨otherValue, hotherValue, -⟩ :=
    hb.exists_value ((sortNames_perm b.signed).mem_iff.mp hother)
  refine ⟨value, hvalue, ?_⟩
  rw [hvalue, hotherValue, Option.getD_some, Option.getD_some] at hsame
  rw [hotherValue, hsame]

/-! ## The whole text -/

/-- **The canonical text binds the request.**  Requests with the same canonical text have the
same method, payload hash and decoded path, the same parameters in some order, and the same
signed names with the same normalised values. -/
theorem canonical_binds {a b : Request} (ha : a.WellFormed) (hb : b.WellFormed)
    (h : a.canonical = b.canonical) :
    a.method = b.method ∧ a.payloadHash = b.payloadHash ∧ a.segments = b.segments ∧
      a.parameters.Perm b.parameters ∧ a.signed.Perm b.signed ∧
      ∀ name ∈ a.signed, ∃ value, headerValue? a.headers name = some value ∧
        headerValue? b.headers name = some value := by
  rw [a.canonical_eq_join, b.canonical_eq_join] at h
  have hlines : a.lines = b.lines := join_injective (List.cons_ne_nil _ _) (List.cons_ne_nil _ _)
    ha.lines_clean hb.lines_clean h
  simp only [Request.lines, List.cons.injEq] at hlines
  obtain ⟨hmethod, hpath, hquery, hrest⟩ := hlines
  -- Three lines follow the header part on either side, so it ends at the same line.
  obtain ⟨hpart, htail⟩ := List.append_inj' hrest rfl
  simp only [List.cons.injEq, true_and, and_true] at htail
  have hsorted := sortedParameters_of_canonicalQuery hquery
  have hheaders := signedHeaders_of_headerPart ha hb hpart
  exact ⟨hmethod, htail.2, segments_of_canonicalPath hpath,
    (sortedParameters_perm a).symm.trans (hsorted ▸ sortedParameters_perm b),
    signed_perm_of_signedHeaders hheaders,
    fun _ hname => headerValue?_of_signedHeaders ha hb hheaders hname⟩

/-- A request written in two ways: with and without escapes, with the parameters and the headers
in another order, with capitals in the names and more white space in the values. -/
theorem canonical_binds_two_spellings :
    let a : Request := ⟨"GET".toList, "/b/a b".toList, "y=2&x".toList,
      [("Host".toList, "h".toList), ("X-T".toList, " a   b ".toList)],
      ["host".toList, "x-t".toList], "U".toList⟩
    let b : Request := ⟨"GET".toList, "/b/a%20b".toList, "x=&&y=2".toList,
      [("x-t".toList, "a b".toList), ("HOST".toList, "h".toList)],
      ["x-t".toList, "host".toList], "U".toList⟩
    a.WellFormed ∧ b.WellFormed ∧ a.canonical = b.canonical ∧ a.segments = b.segments ∧
      a.parameters.Perm b.parameters ∧ a.signed.Perm b.signed := by
  intro a b
  have ha : a.WellFormed :=
    ⟨by decide, by decide, by decide, by decide, by decide, by decide, by decide⟩
  have hb : b.WellFormed :=
    ⟨by decide, by decide, by decide, by decide, by decide, by decide, by decide⟩
  have h : a.canonical = b.canonical := by cbv
  obtain ⟨-, -, hsegments, hparameters, hsigned, -⟩ := canonical_binds ha hb h
  exact ⟨ha, hb, h, hsegments, hparameters, hsigned⟩

end ObjectAccess.Signing
