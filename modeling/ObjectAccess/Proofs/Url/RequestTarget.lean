import ObjectAccess.Proofs.Steps
import ObjectAccess.Proofs.Text.Pieces
import ObjectAccess.Proofs.Url.Endpoint
import ObjectAccess.Url.RequestTarget

/-!
# Request targets are taken apart as they were put together

A URL that is put together from a scheme, an authority, a path and a query is taken apart
into the same parts, if it is taken at all and each part keeps to its place
(`read_urlText`).  The scheme ends at the first colon, the authority at the first slash
after it, and the path at the first question mark.
-/

namespace ObjectAccess.Url.RequestTarget

set_option autoImplicit false

open ObjectAccess.Text

/-- The text of a URL with the given parts. -/
def urlText (scheme authority path query : List Char) : List Char :=
  scheme ++ ':' :: '/' :: '/' :: (authority ++ path ++ '?' :: query)

/-! ## Runs of characters -/

theorem takeWhile_append_cons {p : Char → Bool} {before : List Char} {c : Char}
    (hbefore : ∀ d ∈ before, p d = true) (hc : p c = false) (after : List Char) :
    (before ++ c :: after).takeWhile p = before := by
  rw [List.takeWhile_append_of_pos hbefore, List.takeWhile_cons_of_neg (by simp [hc]),
    List.append_nil]

theorem dropWhile_append_cons {p : Char → Bool} {before : List Char} {c : Char}
    (hbefore : ∀ d ∈ before, p d = true) (hc : p c = false) (after : List Char) :
    (before ++ c :: after).dropWhile p = c :: after := by
  rw [List.dropWhile_append_of_pos hbefore, List.dropWhile_cons_of_neg (by simp [hc])]

/-! ## Schemes -/

/-- The scheme of a target starts as the scheme of an endpoint may, and goes on alike. -/
theorem isSchemeChar_of_url {c : Char} (h : Url.isSchemeChar c = true) : isSchemeChar c = true := by
  simp only [Url.isSchemeChar, isSchemeChar, Bool.or_eq_true] at h ⊢
  exact Or.inl h

/-- A scheme that is recognised in any case ends at the first colon. -/
theorem length_of_isPrefixOf_lowered (usual : List Char) {scheme rest : List Char}
    (husual : ':' ∉ usual) (h : ∀ c ∈ scheme, Url.isSchemeChar c = true)
    (hstarts : (usual ++ "://".toList).isPrefixOf
      (((scheme ++ ':' :: rest).take 8).map Char.toLower) = true) :
    scheme.length = usual.length := by
  have hlowered : ':' ∉ scheme.map Char.toLower := by
    intro hc
    obtain ⟨c, hmem, hc⟩ := List.mem_map.mp hc
    have hscheme := isSchemeChar_toLower (h c hmem)
    rw [hc] at hscheme
    cases hscheme
  have htaken := List.take_prefix 8 (scheme ++ ':' :: rest)
  have hwhole : (usual ++ "://".toList) <+: (scheme ++ ':' :: rest).map Char.toLower :=
    ( List.isPrefixOf_iff_prefix.mp hstarts).trans (htaken.map _)
  obtain ⟨after, hafter⟩ := hwhole
  have hcut : cut? ':' ((scheme ++ ':' :: rest).map Char.toLower) =
      some (usual, '/' :: '/' :: after) := by
    rw [← hafter, List.append_assoc]
    exact cut?_append _ husual
  rw [List.map_append, List.map_cons] at hcut
  have hcut' := cut?_append (rest.map Char.toLower) hlowered
  have hsame := (Prod.mk.injEq .. ▸ Option.some.inj (hcut'.symm.trans hcut)).1
  rw [← hsame, List.length_map]

/-- The scheme ends at the first colon, and may have up to 64 characters. -/
theorem schemeLength?_append {scheme rest : List Char} (hne : scheme ≠ [])
    (h : ∀ c ∈ scheme, Url.isSchemeChar c = true) :
    schemeLength? (scheme ++ ':' :: '/' :: '/' :: rest) =
      if 64 < scheme.length then .error .schemeTooLong else .ok (some scheme.length) := by
  unfold schemeLength?
  simp only
  split
  · next hhttp =>
      have hlength := length_of_isPrefixOf_lowered "http".toList (by decide) h hhttp
      rw [hlength]
      rfl
  · split
    · next hhttps =>
        have hlength := length_of_isPrefixOf_lowered "https".toList (by decide) h hhttps
        rw [hlength]
        rfl
    · have hlong : ¬(octets (scheme ++ ':' :: '/' :: '/' :: rest)).length ≤ 3 := by
        have hle := (length_octets_range (scheme ++ ':' :: '/' :: '/' :: rest)).1
        have hpos := List.length_pos_iff.mpr hne
        simp only [List.length_append, List.length_cons] at hle
        omega
      have htake : (scheme ++ ':' :: '/' :: '/' :: rest).takeWhile isSchemeChar = scheme :=
        takeWhile_append_cons (fun c hc => isSchemeChar_of_url (h c hc)) (by decide) _
      rw [if_neg hlong, htake, List.drop_left, if_pos (by simp)]

/-! ## Authorities -/

/-- Every character that the scan of an authority passes may stand in one. -/
theorem isAuthorityChar_of_foldlM : ∀ {authority : List Char} {s s' : AuthorityScan},
    authority.foldlM AuthorityScan.step s = .ok s' →
      ∀ c ∈ authority, c = '%' ∨ isAuthorityChar c = true
  | [], _, _, _ => fun _ hc => absurd hc List.not_mem_nil
  | d :: others, s, s', h => by
      rw [List.foldlM_cons] at h
      obtain ⟨next, hstep, h⟩ := bind_eq_ok_iff.mp h
      refine List.forall_mem_cons.mpr ⟨?_, isAuthorityChar_of_foldlM h⟩
      unfold AuthorityScan.step at hstep
      simp only at hstep
      split at hstep
      · next hpercent => exact Or.inl hpercent
      · split at hstep
        · cases hstep
        · next hd => exact Or.inr (by simpa using hd)

/-- An authority that stands alone is taken whole. -/
theorem takeAuthority_of_keeps {authority : List Char} (h : KeepsToAuthority authority) :
    takeAuthority authority = (authority.foldlM AuthorityScan.step {}).bind fun scan =>
      if scan.opened ≠ scan.closed ∨ scan.colons > 1 ∨ scan.endsWithAt ∨ scan.hasPercent then
        .error .badAuthority
      else .ok (authority, []) := by
  have hkept : ∀ c ∈ authority, (!endsAuthority c) = true := fun c hc => by rw [h c hc]; rfl
  unfold takeAuthority
  rw [List.takeWhile_eq_self_iff.mpr hkept, List.dropWhile_eq_nil_iff.mpr hkept]
  rfl

/-- The authority ends at the first slash. -/
theorem takeAuthority_append {authority : List Char} (h : KeepsToAuthority authority)
    (rest : List Char) :
    takeAuthority (authority ++ '/' :: rest) =
      (takeAuthority authority).map fun _ => (authority, '/' :: rest) := by
  have hkept : ∀ c ∈ authority, (!endsAuthority c) = true := fun c hc => by rw [h c hc]; rfl
  have hslash : (!endsAuthority '/') = false := by decide
  rw [takeAuthority_of_keeps h]
  unfold takeAuthority
  simp only [takeWhile_append_cons hkept hslash, dropWhile_append_cons hkept hslash]
  cases authority.foldlM AuthorityScan.step {} with
  | error e => rfl
  | ok scan =>
      simp only [bind, Except.bind]
      split <;> rfl

/-- Every character of an authority that is taken may stand in one. -/
theorem isAuthorityChar_of_takeAuthority {authority : List Char} {parts : List Char × List Char}
    (h : KeepsToAuthority authority) (hread : takeAuthority authority = .ok parts) :
    ∀ c ∈ authority, c = '%' ∨ isAuthorityChar c = true := by
  rw [takeAuthority_of_keeps h] at hread
  obtain ⟨scan, hscan, -⟩ := bind_eq_ok_iff.mp hread
  exact isAuthorityChar_of_foldlM hscan

/-! ## Paths and queries -/

/-- Whether every character of a text may stand in a query. -/
def KeepsToQuery (text : List Char) : Prop := ∀ c ∈ text, isQueryChar c = true

theorem isQueryChar_of_isUnreserved {c : Char} (h : Percent.isUnreserved c = true) :
    isQueryChar c = true := by
  have hall : ∀ n < 0x7F, Percent.isUnreserved (Char.ofNat n) = true →
      isQueryChar (Char.ofNat n) = true := by decide
  exact test_of_toNat_lt hall (Percent.isUnreserved_range h).2 h

/-- A component keeps to the query. -/
theorem keepsToQuery_encode (text : List Char) : KeepsToQuery (Percent.encode text) := by
  intro c hc
  rcases Percent.mem_encode hc with rfl | h
  · decide
  · exact isQueryChar_of_isUnreserved h

/-- The path ends at the first question mark, and the query is what follows. -/
theorem takePath_append {path query : List Char} (hpath : KeepsToPath path)
    (hquery : KeepsToQuery query) :
    takePath (path ++ '?' :: query) = .ok (path, some query) := by
  have hwhole : (path ++ '?' :: query).takeWhile (· ≠ '#') = path ++ '?' :: query := by
    refine List.takeWhile_eq_self_iff.mpr fun c hc => decide_eq_true fun e => ?_
    rcases List.mem_append.mp (e ▸ hc) with hc | hc
    · exact absurd (hpath '#' hc) (by decide)
    · rcases List.mem_cons.mp hc with hc | hc
      · cases hc
      · exact absurd (hquery '#' hc) (by decide)
  have hkept : ∀ c ∈ path, decide (c ≠ '?') = true := fun c hc =>
    decide_eq_true fun e => absurd (hpath '?' (e ▸ hc)) (by decide)
  have hmark : decide ('?' ≠ '?') = false := by decide
  unfold takePath
  simp only [hwhole, takeWhile_append_cons hkept hmark, dropWhile_append_cons hkept hmark]
  rw [if_neg (by simp [List.all_eq_true.mpr hpath]), if_pos (List.all_eq_true.mpr hquery)]

/-! ## Targets -/

section

variable {scheme authority path query : List Char} (hne : scheme ≠ [])
  (hscheme : ∀ c ∈ scheme, Url.isSchemeChar c = true) (hauthority : KeepsToAuthority authority)
  (hstart : path.head? = some '/') (hpath : KeepsToPath path) (hquery : KeepsToQuery query)
include hne hscheme hauthority hstart hpath hquery

/-- A URL that is put together from parts that keep to their places is taken apart into them, if
it is not too long and its authority is taken. -/
theorem read_urlText :
    read (String.ofList (urlText scheme authority path query)) =
      if maxOctets < (String.ofList (urlText scheme authority path query)).utf8ByteSize then
        .error .tooLong
      else if 64 < scheme.length then .error .schemeTooLong
      else (takeAuthority authority).bind fun _ =>
        if authority = [] then .error .badFormat
        else .ok
          ⟨some (String.ofList authority), String.ofList path, some (String.ofList query)⟩ := by
  obtain ⟨first, others, rfl⟩ := List.exists_cons_of_ne_nil hne
  obtain ⟨rest, rfl⟩ := List.head?_eq_some_iff.mp hstart
  have hfirst : first ≠ '/' := fun e =>
    absurd (hscheme first (List.mem_cons_self ..)) (by rw [e]; decide)
  have hdrop : ((first :: others) ++ ':' :: '/' :: '/' ::
      (authority ++ '/' :: rest ++ '?' :: query)).drop ((first :: others).length + 3) =
      authority ++ '/' :: (rest ++ '?' :: query) := by
    rw [← List.drop_drop, List.drop_left, List.append_assoc]
    rfl
  have hparts := takePath_append hpath hquery
  rw [List.cons_append] at hparts
  unfold read
  simp only [String.toList_ofList]
  split
  · rfl
  · unfold urlText
    split
    · next h => cases h
    · next h => exact absurd (List.cons.inj h).1 hfirst
    · next h => simp at h
    · next h => simp at h
    · next h => exact absurd (List.cons.inj h).1 hfirst
    · rw [schemeLength?_append hne hscheme]
      split
      · rfl
      · simp only [bind, Except.bind, hdrop, takeAuthority_append hauthority]
        rw [if_neg (by simp)]
        cases takeAuthority authority with
        | error e => rfl
        | ok parts =>
            simp only [Except.map]
            split
            · rfl
            · simp only [ofPath, hparts]
              rfl

/-- What a URL that is put together and taken comes apart into. -/
theorem eq_of_read_urlText {target : RequestTarget}
    (hread : read (String.ofList (urlText scheme authority path query)) = .ok target) :
    target = ⟨some (String.ofList authority), String.ofList path, some (String.ofList query)⟩ ∧
      ∀ c ∈ authority, c = '%' ∨ isAuthorityChar c = true := by
  rw [read_urlText hne hscheme hauthority hstart hpath hquery] at hread
  split at hread
  · cases hread
  · split at hread
    · cases hread
    · obtain ⟨parts, htake, hread⟩ := bind_eq_ok_iff.mp hread
      split at hread
      · cases hread
      · cases hread
        exact ⟨rfl, isAuthorityChar_of_takeAuthority hauthority htake⟩

end

end ObjectAccess.Url.RequestTarget
