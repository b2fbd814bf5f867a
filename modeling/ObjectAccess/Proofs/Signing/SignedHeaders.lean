import ObjectAccess.Proofs.Signing.Restated
import ObjectAccess.Proofs.Text.Casing
import ObjectAccess.Proofs.Text.Template

/-!
# Which headers a signature binds

The canonical text has its header lines under names in lower case, and looks the signed names up
among them as they are written.  A signed name in any other form finds no line and is left out, even
though the verifier has found its header without regard to case.  So a header is bound by the
signature just if the lower-case form of its name is one of the signed names, and of several headers
of one name only the first one is seen (`bound_iff_lowered`).
-/

namespace ObjectAccess.Signing

set_option autoImplicit false

open ObjectAccess.Text ObjectAccess.Time

/-! ## Names -/

/-- Names that the look-up of headers takes for the same. -/
def SameName (name other : List Char) : Prop := name.map Char.toLower = other.map Char.toLower

instance (name other : List Char) : Decidable (SameName name other) :=
  inferInstanceAs (Decidable (name.map Char.toLower = other.map Char.toLower))

/-- Such names have the same lower-case form. -/
theorem SameName.lower_eq {name other : List Char} (h : SameName name other) :
    lower name = lower other := by
  rw [← lower_map_toLower name, h, lower_map_toLower]

/-! ## Lines -/

/-- The values of the headers whose name has the given lower-case form, with their white space
collapsed. -/
def valuesOf (headers : List Header) (name : List Char) : List (List Char) :=
  (headers.filter fun h => lower h.1 = name).map fun h => collapse h.2

/-- The headers that the canonical text has lines for. -/
def coveredHeaders (headers : List Header) (signed : List (List Char)) : List Header :=
  ((sortNames signed).filter fun name => headers.any fun h => lower h.1 = name).map fun name =>
    (name, join ',' (valuesOf headers name))

variable {headers : List Header} {names : List (List Char)}

theorem headerValue?_eq (headers : List Header) (name : List Char) :
    headerValue? headers name =
      if headers.any (fun h => lower h.1 = name) then some (join ',' (valuesOf headers name))
      else none := by
  have hany : headers.any (fun h => lower h.1 = name) = true ↔ valuesOf headers name ≠ [] := by
    rw [valuesOf, ne_eq, List.map_eq_nil_iff, List.filter_eq_nil_iff, List.any_eq_true]
    push Not
    rfl
  unfold headerValue?
  split
  · next hnil => rw [if_neg fun h => hany.mp h hnil]
  · next hfull => rw [if_pos (hany.mpr hfull)]; rfl

/-- The header part of the canonical text has one line for each of these headers. -/
theorem canonicalHeaders_eq_covered (headers : List Header) (signed : List (List Char)) :
    canonicalHeaders headers signed =
      join '\n' ((coveredHeaders headers signed).map fun h => h.1 ++ ':' :: h.2) := by
  unfold canonicalHeaders coveredHeaders
  rw [List.map_map, ← List.filterMap_eq_map, List.filterMap_filter]
  refine congrArg (join '\n') (List.filterMap_congr fun name _ => ?_)
  rw [headerValue?_eq]
  split <;> rfl

/-- A header that is there has a line just if the lower-case form of its name is a signed name. -/
theorem mem_coveredHeaders_iff {signed : List (List Char)} {name : List Char}
    (h : ∃ header ∈ headers, lower header.1 = lower name) :
    (lower name, join ',' (valuesOf headers (lower name))) ∈ coveredHeaders headers signed ↔
      lower name ∈ signed := by
  have hany : headers.any (fun header => lower header.1 = lower name) = true := by simpa using h
  rw [coveredHeaders, List.mem_map]
  constructor
  · rintro ⟨line, hline, heq⟩
    obtain rfl : line = lower name := congrArg Prod.fst heq
    exact (sortNames_perm signed).mem_iff.mp (List.mem_filter.mp hline).1
  · intro hsigned
    exact ⟨_, List.mem_filter.mpr ⟨(sortNames_perm signed).mem_iff.mpr hsigned, hany⟩, rfl⟩

/-! ## One value among others -/

section

variable (names : List (List Char)) (here : List Char → Prop) [DecidablePred here]
  (fixed : List Char → List Char)

/-- The headers under some names, of which those at the names in question have a given value. -/
def placedHeaders (value : List Char) : List Header :=
  names.map fun name => (name, if here name then value else fixed name)

/-- The signed names that are the lower-case form of one. -/
def loweredNames : List (List Char) :=
  (sortNames names).filter fun name => names.any fun other => lower other = name

/-- The line of a name, given the value with its white space collapsed. -/
def placedLine (name value : List Char) : List Char :=
  name ++ ':' :: join ',' ((names.filter fun other => lower other = name).map fun other =>
    if here other then value else collapse (fixed other))

theorem canonicalHeaders_placedHeaders (value : List Char) :
    canonicalHeaders (placedHeaders names here fixed value) names =
      join '\n' ((loweredNames names).map fun name =>
        placedLine names here fixed name (collapse value)) := by
  have hlines : ∀ name, (placedHeaders names here fixed value).any (fun h => lower h.1 = name) =
      names.any fun other => lower other = name := by
    intro name
    rw [placedHeaders, List.any_map]
    rfl
  have hvalues : ∀ name, valuesOf (placedHeaders names here fixed value) name =
      (names.filter fun other => lower other = name).map fun other =>
        if here other then collapse value else collapse (fixed other) := by
    intro name
    rw [valuesOf, placedHeaders, List.filter_map, List.map_map]
    exact List.map_congr_left fun other _ => apply_ite collapse _ _ _
  rw [canonicalHeaders_eq_covered, coveredHeaders, List.map_map]
  simp only [hlines]
  refine congrArg (join '\n') (List.map_congr_left fun name _ => ?_)
  exact congrArg (fun values => name ++ ':' :: join ',' values) (hvalues name)

theorem inserts_placedLine (name : List Char) :
    Inserts (placedLine names here fixed name)
      (∃ other ∈ names, lower other = name ∧ here other) := by
  have hpart : ∀ other, Inserts (fun value => if here other then value else collapse (fixed other))
      (here other) := by
    intro other
    by_cases hother : here other
    · simpa only [if_pos hother] using Inserts.self.congr (iff_of_true trivial hother)
    · simpa only [if_neg hother] using (Inserts.constant _).congr (iff_of_false id hother)
  refine (((Inserts.join ',' hpart _).after [':']).after name).congr ?_
  simp only [List.mem_filter, decide_eq_true_eq, and_assoc]

/-- The header part holds the value if a name in question is there in lower case, and does not
depend on it otherwise. -/
theorem canonicalHeaders_placed_eq_iff (value other : List Char) :
    canonicalHeaders (placedHeaders names here fixed value) names =
        canonicalHeaders (placedHeaders names here fixed other) names ↔
      ((∃ name ∈ names, here name ∧ lower name ∈ names) → collapse value = collapse other) := by
  rw [canonicalHeaders_placedHeaders, canonicalHeaders_placedHeaders,
    (Inserts.join '\n' (inserts_placedLine names here fixed) (loweredNames names)).eq_iff]
  refine imp_congr_left ?_
  simp only [loweredNames, List.mem_filter, (sortNames_perm names).mem_iff, List.any_eq_true,
    decide_eq_true_eq]
  constructor
  · rintro ⟨_, ⟨hmem, -⟩, name, hname, rfl, hhere⟩
    exact ⟨name, hname, hhere, hmem⟩
  · rintro ⟨name, hname, hhere, hmem⟩
    exact ⟨lower name, ⟨hmem, name, hname, rfl⟩, name, hname, rfl, hhere⟩

end

/-! ## The headers of a request -/

namespace SignedRequest

/-- Whether the look-up of a name finds a header of the name `n` that stands after some others. -/
def Finds (before : List Header) (n name : List Char) : Prop :=
  SameName n name ∧ ∀ h ∈ before, ¬SameName h.1 n

instance (before : List Header) (n : List Char) : DecidablePred (Finds before n) :=
  fun name => inferInstanceAs (Decidable (SameName n name ∧ ∀ h ∈ before, ¬SameName h.1 n))

/-- The value that the look-up of a name finds in a list of headers. -/
def valueOf (headers : List Header) (name : List Char) : List Char := (header? headers name).getD []

/-- Headers are collected just if each name is found, and then each with its value. -/
theorem collectHeaders_eq_ok_iff {found : List Header} :
    collectHeaders headers names = .ok found ↔
      (∀ name ∈ names, (header? headers name).isSome) ∧
        found = names.map fun name => (name, valueOf headers name) := by
  induction names generalizing found with
  | nil => simp only [collectHeaders, Except.ok.injEq, List.not_mem_nil, false_imp_iff,
      implies_true, true_and, List.map_nil, eq_comm]
  | cons name others ih =>
      unfold collectHeaders
      cases hname : header? headers name with
      | none => simp [hname]
      | some value =>
          simp only [map_eq_ok_iff, ih, List.forall_mem_cons, hname, Option.isSome_some, true_and,
            List.map_cons, valueOf, Option.getD_some]
          constructor
          · rintro ⟨_, ⟨hall, rfl⟩, rfl⟩
            exact ⟨hall, rfl⟩
          · rintro ⟨hall, rfl⟩
            exact ⟨_, ⟨hall, rfl⟩, rfl⟩

theorem header?_eq (headers : List Header) (name : List Char) :
    header? headers name =
      ((headers.find? fun h => SameName h.1 name).map (·.2)).filter isHeaderText := rfl

/-- The look-up finds the header that stands there, or passes over it. -/
theorem header?_insert (before after : List Header) (n value name : List Char) :
    header? (before ++ (n, value) :: after) name =
      if Finds before n name then (some value).filter isHeaderText
      else header? (before ++ after) name := by
  rw [header?_eq, header?_eq, List.find?_append, List.find?_append]
  by_cases hsame : SameName n name
  · have hbefore : ∀ h : Header, SameName h.1 name ↔ SameName h.1 n := fun h =>
      ⟨fun hname => hname.trans hsame.symm, fun hn => hn.trans hsame⟩
    cases hfind : before.find? fun h => SameName h.1 name with
    | none =>
        have hnone : ∀ h ∈ before, ¬SameName h.1 n := fun h hmem hn =>
          List.find?_eq_none.mp hfind h hmem (decide_eq_true ((hbefore h).mpr hn))
        rw [if_pos ⟨hsame, hnone⟩, List.find?_cons_of_pos (by simpa using hsame)]
        rfl
    | some first =>
        have hfirst : SameName first.1 name := by simpa using List.find?_some hfind
        have hmem : first ∈ before := List.mem_of_find?_eq_some hfind
        rw [if_neg fun h => h.2 first hmem ((hbefore first).mp hfirst)]
        rfl
  · rw [if_neg fun h => hsame h.1, List.find?_cons_of_neg (by simpa using hsame)]

/-- Headers can be collected with one of them in its place just if that one is text, where it is
found, and the others are there. -/
theorem collectHeaders_insert {before after found : List Header} {n value : List Char} :
    collectHeaders (before ++ (n, value) :: after) names = .ok found ↔
      (∀ name ∈ names, if Finds before n name then isHeaderText value = true
        else (header? (before ++ after) name).isSome) ∧
      found = placedHeaders names (Finds before n) (valueOf (before ++ after)) value := by
  have hpresent : ∀ name, (header? (before ++ (n, value) :: after) name).isSome ↔
      if Finds before n name then isHeaderText value = true
      else (header? (before ++ after) name).isSome := by
    intro name
    rw [header?_insert]
    split
    · rw [Option.filter_some]
      split <;> simp_all
    · rfl
  rw [collectHeaders_eq_ok_iff]
  simp only [hpresent]
  refine and_congr_right fun hall => iff_of_eq (congrArg (found = ·) ?_)
  refine List.map_congr_left fun name hname => ?_
  have hthere := hall name hname
  rw [valueOf, header?_insert]
  split
  · next hfinds =>
      rw [if_pos hfinds] at hthere
      rw [Option.filter_some, if_pos hthere]
      rfl
  · rfl

/-- The text that is signed for a request, given its signed headers. -/
def signedText (r : SignedRequest) (p : SignedParameters) (headers : List Header) : List Char :=
  Request.canonical
    { method := r.method.toList
      path := r.path.toList
      query := unsignedQuery r.query.toList
      headers := headers
      signed := p.signedHeaders
      payloadHash := unsignedPayload }

/-- The text that the verifier signs, if the signed headers are there. -/
def canonicalText (r : SignedRequest) (p : SignedParameters) : Except SigningError (List Char) :=
  (collectHeaders r.headers p.signedHeaders).map (r.signedText p)

variable {r : SignedRequest} {p : SignedParameters}

/-- The text follows from its header part, all else being equal. -/
theorem signedText_eq_iff {first second : List Header} :
    r.signedText p first = r.signedText p second ↔
      canonicalHeaders first p.signedHeaders = canonicalHeaders second p.signedHeaders := by
  simp only [signedText, Request.canonical, List.append_cancel_left_eq, List.cons.injEq, true_and,
    List.append_cancel_right_eq]

/-- The signature that is expected is made over that text. -/
theorem expectedSignature_eq (headers : List Header) (secret : List Char) :
    r.expectedSignature p headers secret =
      requestSignature secret p.signedAt.stamp p.scope (r.signedText p headers) := rfl

/-- An accepted request has its signed headers, so a text is signed for it. -/
theorem exists_canonicalText {keyring : Keyring} {now : Instant} {signer : Identity}
    (h : r.verify keyring now = .accepted signer)
    (hread : SignedParameters.ofQuery r.query.toList = .ok p) :
    ∃ text, r.canonicalText p = .ok text := by
  obtain ⟨q, hreadq, -, -, hsigned⟩ := verify_eq_accepted_iff.mp h
  rw [hread] at hreadq
  cases hreadq
  obtain ⟨-, found, -, hfound, -, -⟩ := checkSignature_eq_ok_iff.mp hsigned
  exact ⟨_, map_eq_ok_iff.mpr ⟨found, hfound, rfl⟩⟩

/-- A request with other headers gets the same verdict if the same text is signed for it. -/
theorem verify_of_canonicalText {keyring : Keyring} {now : Instant} {signer : Identity}
    (h : r.verify keyring now = .accepted signer)
    (hread : SignedParameters.ofQuery r.query.toList = .ok p)
    (hsame : { r with headers := headers }.canonicalText p = r.canonicalText p) (later : Instant) :
    { r with headers := headers }.verify keyring later = r.verify keyring later := by
  obtain ⟨q, hreadq, hexpires, -, hsigned⟩ := verify_eq_accepted_iff.mp h
  rw [hread] at hreadq
  cases hreadq
  obtain ⟨secret, found, hsecret, hfound, hsignature, hsigner⟩ :=
    checkSignature_eq_ok_iff.mp hsigned
  obtain ⟨others, hothers, htext⟩ : ∃ others, collectHeaders headers p.signedHeaders = .ok others ∧
      r.signedText p others = r.signedText p found :=
    map_eq_ok_iff.mp (hsame.trans (map_eq_ok_iff.mpr ⟨found, hfound, rfl⟩))
  have hchecked : { r with headers := headers }.checkSignature p keyring signer.expiresAt =
      .ok signer := by
    refine checkSignature_eq_ok_iff.mpr ⟨secret, others, hsecret, hothers, ?_, hsigner⟩
    rw [← hsignature, expectedSignature_eq, expectedSignature_eq, ← htext]
    rfl
  exact (verify_of_checkSignature (r := { r with headers := headers }) hread hexpires hchecked
    later).trans (verify_of_checkSignature hread hexpires hsigned later).symm

/-- Replacing the value of a header changes the text that is signed just if the header is found and
the lower-case form of its name is a signed name. -/
theorem exists_canonicalText_replaced {before after : List Header} {n value other text : List Char}
    (hheaders : r.headers = before ++ (n, value) :: after) (htext : r.canonicalText p = .ok text)
    (hsigned : ∃ name ∈ p.signedHeaders, SameName n name) (hother : isHeaderText other = true)
    (hvalue : collapse other ≠ collapse value) :
    ∃ changed, { r with headers := before ++ (n, other) :: after }.canonicalText p = .ok changed ∧
      (changed ≠ text ↔ lower n ∈ p.signedHeaders ∧ ∀ h ∈ before, ¬SameName h.1 n) := by
  obtain ⟨found, hfound, rfl⟩ := map_eq_ok_iff.mp htext
  rw [hheaders, collectHeaders_insert] at hfound
  obtain ⟨hall, rfl⟩ := hfound
  have hpresent : ∀ name ∈ p.signedHeaders, if Finds before n name then isHeaderText other = true
      else (header? (before ++ after) name).isSome := by
    intro name hname
    have hfound := hall name hname
    split
    · exact hother
    · next hfinds => rwa [if_neg hfinds] at hfound
  refine ⟨_, map_eq_ok_iff.mpr ⟨_, collectHeaders_insert.mpr ⟨hpresent, rfl⟩, rfl⟩, ?_⟩
  have hsame : ∀ headers, { r with headers := before ++ (n, other) :: after }.signedText p headers =
      r.signedText p headers := fun _ => rfl
  rw [hsame, ne_eq, signedText_eq_iff, canonicalHeaders_placed_eq_iff, Classical.not_imp,
    and_iff_left hvalue]
  constructor
  · rintro ⟨name, -, ⟨hname, hfirst⟩, hlowered⟩
    exact ⟨hname.lower_eq ▸ hlowered, hfirst⟩
  · rintro ⟨hlowered, hfirst⟩
    obtain ⟨name, hname, hn⟩ := hsigned
    exact ⟨name, hname, ⟨hn, hfirst⟩, hn.lower_eq ▸ hlowered⟩

end SignedRequest

/-- **Which headers a signature binds.**  A header that is there has a line in the canonical text
just if the lower-case form of its name is one of the signed names; the line has the values of all
headers of that name.  An accepted request can be given another text as the value of a header that
it says it has signed.  The text that is signed for it changes just if the lower-case form of the
name is a signed name and no header of the same name stands before, and otherwise the request gets
the same verdict at every instant. -/
theorem bound_iff_lowered (headers : List Header) (signed : List (List Char)) (r : SignedRequest)
    (keyring : Keyring) :
    (canonicalHeaders headers signed =
        join '\n' ((coveredHeaders headers signed).map fun h => h.1 ++ ':' :: h.2) ∧
      ∀ name, (∃ header ∈ headers, lower header.1 = lower name) →
        ((lower name, join ',' (valuesOf headers (lower name))) ∈ coveredHeaders headers signed ↔
          lower name ∈ signed)) ∧
    ∀ now signer, r.verify keyring now = .accepted signer →
      ∃ p text, SignedParameters.ofQuery r.query.toList = .ok p ∧
        r.canonicalText p = .ok text ∧
        ∀ before n value after other, r.headers = before ++ (n, value) :: after →
          (∃ name ∈ p.signedHeaders, SameName n name) →
          SignedRequest.isHeaderText other = true → collapse other ≠ collapse value →
          ∃ changed,
            { r with headers := before ++ (n, other) :: after }.canonicalText p = .ok changed ∧
            (changed ≠ text ↔ lower n ∈ p.signedHeaders ∧ ∀ h ∈ before, ¬SameName h.1 n) ∧
            (changed = text → ∀ later,
              { r with headers := before ++ (n, other) :: after }.verify keyring later =
                r.verify keyring later) := by
  constructor
  · exact ⟨canonicalHeaders_eq_covered headers signed, fun name => mem_coveredHeaders_iff⟩
  · intro now signer h
    obtain ⟨p, hread, -⟩ := SignedRequest.verify_eq_accepted_iff.mp h
    obtain ⟨text, htext⟩ := SignedRequest.exists_canonicalText h hread
    refine ⟨p, text, hread, htext, ?_⟩
    intro before n value after other hheaders hnamed hother hvalue
    obtain ⟨changed, hchanged, hiff⟩ :=
      SignedRequest.exists_canonicalText_replaced hheaders htext hnamed hother hvalue
    refine ⟨changed, hchanged, hiff, fun hsame => ?_⟩
    exact SignedRequest.verify_of_canonicalText h hread
      (hchanged.trans (hsame ▸ htext.symm))

open SignedRequest in
/-- The example can be signed with the host header under a name that is not in lower case. -/
theorem exists_capitalised :
    ∃ query p signer, SignedParameters.ofQuery query.toList = .ok p ∧
      (∃ name ∈ p.signedHeaders, SameName "host".toList name) ∧
      lower "host".toList ∉ p.signedHeaders ∧
      { exampleSigned with query := query }.verify exampleKeyring exampleEnd =
        .accepted signer := by
  obtain ⟨_, -, -, -, hverify⟩ := verify_exampleSigned
  obtain ⟨signer, haccepted⟩ := hverify exampleEnd (Or.inr rfl)
  obtain ⟨p, hread, hexpires, hlate, hsigned⟩ := verify_eq_accepted_iff.mp haccepted
  obtain ⟨secret, _, hsecret, -, -, -⟩ := checkSignature_eq_ok_iff.mp hsigned
  have hwritable := (SignedParameters.ofQuery_eq_ok_iff.mp hread).writable
  have hclean : ∀ name ∈ ["Host".toList], ';' ∉ name := by decide
  have hnamed : { p with signedHeaders := ["Host".toList] }.Writable :=
    ⟨hwritable.slash_not_mem, List.cons_ne_nil _ _, hclean⟩
  have hheaders : collectHeaders exampleSigned.headers ["Host".toList] =
      .ok [("Host".toList, exampleHost)] := by decide
  obtain ⟨query, signature, hquery, -, hverdict⟩ :=
    exists_restated hread hnamed rfl rfl hsecret hheaders hexpires
  have hagain := hverdict exampleEnd
  rw [hlate] at hagain
  have hsame : SameName "host".toList "Host".toList := by decide
  have hother : lower "host".toList ∉ ["Host".toList] := by decide +kernel
  exact ⟨query, _, _, hquery, ⟨_, List.mem_singleton_self _, hsame⟩, hother, hagain⟩

/-- The theorem at that request, and at the same header signed in lower case: the line is there, and
the request is still accepted when it is made to another host. -/
theorem bound_iff_lowered_capitalised :
    ("host".toList, "minio.local".toList) ∈
        coveredHeaders [("Host".toList, "minio.local".toList)] ["host".toList] ∧
      ∃ query signer,
        { exampleSigned with query := query }.verify exampleKeyring exampleEnd = .accepted signer ∧
        { exampleSigned with
          query := query
          headers := [("host".toList, "elsewhere".toList)] }.verify exampleKeyring exampleEnd =
            .accepted signer := by
  obtain ⟨query, p, signer, hread, hnamed, hother, haccepted⟩ := exists_capitalised
  obtain ⟨⟨-, hline⟩, hbound⟩ := bound_iff_lowered [("Host".toList, "minio.local".toList)]
    ["host".toList] { exampleSigned with query := query } exampleKeyring
  constructor
  · have hlower : lower "Host".toList = "host".toList := by decide +kernel
    have hvalue : join ',' (valuesOf [("Host".toList, "minio.local".toList)] "host".toList) =
        "minio.local".toList := by decide +kernel
    have hhost := hline "Host".toList ⟨_, List.mem_singleton_self _, rfl⟩
    rw [hlower, hvalue] at hhost
    exact hhost.mpr (List.mem_singleton_self _)
  · obtain ⟨q, text, hread', -, hreplaced⟩ := hbound _ _ haccepted
    rw [hread] at hread'
    cases hread'
    obtain ⟨changed, -, hiff, hsame⟩ := hreplaced [] "host".toList exampleHost [] "elsewhere".toList
      rfl hnamed (by decide) (by decide)
    have htext : changed = text := by
      by_contra hne
      exact hother (hiff.mp hne).1
    exact ⟨query, signer, haccepted, (hsame htext exampleEnd).trans haccepted⟩

/-- A signed header can be without a line, and its value can be left out of what is signed for an
accepted request. -/
theorem exists_unbound :
    (¬∀ (headers : List Header) (signed : List (List Char)),
      (∀ name ∈ signed, ∃ header ∈ headers, lower header.1 = lower name) →
        ∀ name ∈ signed, (lower name ++ ':' :: join ',' (valuesOf headers (lower name))) <:+:
          canonicalHeaders headers signed) ∧
    ¬∀ (r : SignedRequest) (keyring : Keyring) (now : Instant) (signer : Identity)
      (p : SignedParameters), r.verify keyring now = .accepted signer →
        SignedParameters.ofQuery r.query.toList = .ok p →
        ∀ before n value after other, r.headers = before ++ (n, value) :: after →
          (∃ name ∈ p.signedHeaders, SameName n name) →
          SignedRequest.isHeaderText other = true → collapse other ≠ collapse value →
          { r with headers := before ++ (n, other) :: after }.canonicalText p ≠
            r.canonicalText p := by
  constructor
  · intro hall
    have hline := hall [("Host".toList, "minio.local".toList)] ["Host".toList]
      (fun name hname => ⟨_, List.mem_singleton_self _, by rw [List.mem_singleton.mp hname]⟩)
      "Host".toList (List.mem_singleton_self _)
    have hempty :
        canonicalHeaders [("Host".toList, "minio.local".toList)] ["Host".toList] = [] := by
      decide +kernel
    rw [hempty, List.infix_nil] at hline
    exact List.append_ne_nil_of_right_ne_nil _ (List.cons_ne_nil _ _) hline
  · intro hall
    obtain ⟨query, p, signer, hread, hnamed, hlowered, haccepted⟩ := exists_capitalised
    obtain ⟨text, htext⟩ := SignedRequest.exists_canonicalText haccepted hread
    have hheaders : { exampleSigned with query := query }.headers =
        [] ++ ("host".toList, exampleHost) :: [] := rfl
    have hother : SignedRequest.isHeaderText "elsewhere".toList = true := by decide
    have hvalue : collapse "elsewhere".toList ≠ collapse exampleHost := by decide +kernel
    obtain ⟨changed, hchanged, hiff⟩ :=
      SignedRequest.exists_canonicalText_replaced hheaders htext hnamed hother hvalue
    have hsame : changed = text := by
      by_contra hne
      exact hlowered (hiff.mp hne).1
    exact hall _ _ _ _ p haccepted hread _ _ _ _ _ hheaders hnamed hother hvalue
      (hchanged.trans (hsame ▸ htext.symm))

end ObjectAccess.Signing
