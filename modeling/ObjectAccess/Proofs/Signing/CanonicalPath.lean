import ObjectAccess.Proofs.Decoding
import ObjectAccess.Signing.CanonicalRequest

/-!
# The canonical path

A path is made canonical by reading every segment and writing it again, so that the signer, who
has the path as it is, and the verifier, who has it as it stands in the URL, sign the same text
(`canonicalPath_laws`).  A written path is canonical already, and so is every canonical path,
because what was read and written once is read back as the same segments.

The signer and the verifier agree on a path just if none of its segments is changed by being read
before it is written, which is to say that the path has no escape in it.
-/

namespace ObjectAccess.Signing

set_option autoImplicit false

open ObjectAccess.Text ObjectAccess.Percent

variable {path : List Char}

/-- The segments of a path, each read and written again. -/
def rewrittenSegments (path : List Char) : List (List Char) :=
  (pieces '/' path).map fun segment => encode (decode segment)

theorem rewrittenSegments_ne_nil (path : List Char) : rewrittenSegments path ≠ [] := by
  simp [rewrittenSegments, pieces_ne_nil]

theorem slash_not_mem_rewritten (path : List Char) :
    ∀ segment ∈ rewrittenSegments path, '/' ∉ segment := by
  intro segment hsegment
  obtain ⟨original, -, rfl⟩ := List.mem_map.mp hsegment
  exact not_mem_encode (by decide) (by decide) _

/-- The root is no exception: its two empty segments are written as they are. -/
theorem canonicalPath_of_ne_nil (h : path ≠ []) :
    canonicalPath path = join '/' (rewrittenSegments path) := by
  unfold canonicalPath
  split
  · next hroot =>
      rw [hroot.resolve_left h]
      decide
  · rfl

/-- The segments of a canonical path are those of the path, read and written again. -/
theorem pieces_canonicalPath (h : path ≠ []) :
    pieces '/' (canonicalPath path) = rewrittenSegments path := by
  rw [canonicalPath_of_ne_nil h]
  exact pieces_join (rewrittenSegments_ne_nil path) (slash_not_mem_rewritten path)

/-! ## What is canonical already -/

/-- A path whose segments are written is its own canonical path. -/
theorem canonicalPath_of_written (h : path ≠ [])
    (hwritten : ∀ segment ∈ pieces '/' path, ∃ text, encode text = segment) :
    canonicalPath path = path := by
  have hsame : rewrittenSegments path = pieces '/' path := by
    refine (List.map_congr_left fun segment hsegment => ?_).trans (List.map_id _)
    obtain ⟨text, rfl⟩ := hwritten segment hsegment
    rw [decode_encode, id]
  rw [canonicalPath_of_ne_nil h, hsame, join_pieces]

/-- No path becomes empty. -/
theorem canonicalPath_ne_nil (path : List Char) : canonicalPath path ≠ [] := by
  intro hnil
  have hpath : path ≠ [] := by
    rintro rfl
    cases hnil
  -- The only text that has a single empty piece is the empty one.
  have hpieces := pieces_canonicalPath hpath
  rw [hnil] at hpieces
  have hone : rewrittenSegments path = [[]] := hpieces.symm
  obtain ⟨segment, hsegment, hempty⟩ := List.map_eq_singleton_iff.mp hone
  have hself : segment = path := by
    rw [← join_pieces '/' path, hsegment]
    rfl
  exact encode_ne_nil (decode_ne_nil (hself ▸ hpath)) hempty

theorem canonicalPath_encodePath (h : path ≠ []) :
    canonicalPath (encodePath path) = encodePath path := by
  have hne : encodePath path ≠ [] := fun hnil => h (by rw [← decode_encodePath path, hnil]; rfl)
  refine canonicalPath_of_written hne fun segment hsegment => ?_
  rw [pieces_encodePath] at hsegment
  obtain ⟨original, -, rfl⟩ := List.mem_map.mp hsegment
  exact ⟨original, rfl⟩

theorem canonicalPath_idem (path : List Char) :
    canonicalPath (canonicalPath path) = canonicalPath path := by
  by_cases h : path = []
  · subst h
    rfl
  · refine canonicalPath_of_written (canonicalPath_ne_nil path) fun segment hsegment => ?_
    rw [pieces_canonicalPath h] at hsegment
    obtain ⟨original, -, rfl⟩ := List.mem_map.mp hsegment
    exact ⟨decode original, rfl⟩

/-! ## Reading before writing -/

/-- Reading the segments of a path before they are written changes nothing just if they have no
escape. -/
theorem canonicalPath_eq_encodePath_iff (h : path ≠ []) :
    canonicalPath path = encodePath path ↔ ¬HasEscape path := by
  have hsegments : canonicalPath path = encodePath path ↔
      rewrittenSegments path = (pieces '/' path).map encode := by
    rw [← pieces_canonicalPath h, ← pieces_encodePath]
    constructor
    · exact congrArg (pieces '/')
    · intro hpieces
      rw [← join_pieces '/' (canonicalPath path), hpieces, join_pieces]
  rw [hsegments, rewrittenSegments, List.map_inj_left, hasEscape_iff_exists_segment]
  simp only [encode_inj, decode_eq_self_iff, not_exists, not_and]

/-- **The laws of the canonical path.**  A written path is canonical, where the empty path stands
for the root; making a path canonical once is enough; and a path has the same canonical form as the
written path just if there is no `%` before two hexadecimal digits in it. -/
theorem canonicalPath_laws (path : List Char) :
    canonicalPath (encodePath path) = (if path = [] then ['/'] else encodePath path) ∧
      canonicalPath (canonicalPath path) = canonicalPath path ∧
      (canonicalPath path = canonicalPath (encodePath path) ↔ ¬HasEscape path) := by
  refine ⟨?_, canonicalPath_idem path, ?_⟩
  · split
    · next h =>
        subst h
        rfl
    · next h => exact canonicalPath_encodePath h
  · by_cases h : path = []
    · subst h
      exact ⟨fun _ => not_hasEscape_nil, fun _ => rfl⟩
    · rw [canonicalPath_encodePath h, canonicalPath_eq_encodePath_iff h]

end ObjectAccess.Signing
