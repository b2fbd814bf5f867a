import ObjectAccess.Proofs.Steps
import ObjectAccess.Proofs.Url.Host
import ObjectAccess.Url.Endpoint

/-!
# Endpoints can be written back

An endpoint that was read has a scheme of scheme characters, a host that keeps to the
authority, and a path that is empty or starts with a slash and holds only what may stand in
the path of a request target (`wellFormed_of_read`).  So its parts, written one after the
other, are the parts of a request target.

A path is put together from segments that are escaped one by one, so what holds of every
segment holds of those taken so far (`resolveFrom`, `resolveFile?`).
-/

namespace ObjectAccess.Url

set_option autoImplicit false

open ObjectAccess.Text

/-! ## Paths -/

/-- Whether every character of a text may stand in the path of a request target. -/
def KeepsToPath (text : List Char) : Prop := ∀ c ∈ text, RequestTarget.isPathChar c = true

theorem isPathChar_of_isUnreserved {c : Char} (h : Percent.isUnreserved c = true) :
    RequestTarget.isPathChar c = true := by
  have hall : ∀ n < 0x7F, Percent.isUnreserved (Char.ofNat n) = true →
      RequestTarget.isPathChar (Char.ofNat n) = true := by decide
  exact test_of_toNat_lt hall (Percent.isUnreserved_range h).2 h

/-- What is written as it is in the path of a URL may stand in that of a request target. -/
theorem isPathChar_of_keptInPath {c : Char} (h : keptInPath c = true) :
    RequestTarget.isPathChar c = true := by
  have hascii : c.toNat < 0x7F := by
    simp only [keptInPath, Bool.and_eq_true, decide_eq_true_eq] at h
    exact UInt32.lt_iff_toNat_lt.mp h.1.2
  have hall : ∀ n < 0x7F, keptInPath (Char.ofNat n) = true →
      RequestTarget.isPathChar (Char.ofNat n) = true := by decide
  exact test_of_toNat_lt hall hascii h

/-- What is written for a segment keeps to the path. -/
theorem keepsToPath_encodeWith (segment : List Char) :
    KeepsToPath (Percent.encodeWith keptInPath segment) := by
  intro c hc
  rcases Percent.mem_encodeWith hc with ⟨_, hkept⟩ | rfl | hreserved
  · exact isPathChar_of_keptInPath hkept
  · decide
  · exact isPathChar_of_isUnreserved hreserved

namespace KeepsToPath

theorem nil : KeepsToPath [] := fun _ hc => absurd hc List.not_mem_nil

theorem cons {c : Char} {text : List Char} (hc : RequestTarget.isPathChar c = true)
    (h : KeepsToPath text) : KeepsToPath (c :: text) := List.forall_mem_cons.mpr ⟨hc, h⟩

theorem append {a b : List Char} (ha : KeepsToPath a) (hb : KeepsToPath b) :
    KeepsToPath (a ++ b) := fun c hc => (List.mem_append.mp hc).elim (ha c) (hb c)

theorem join {segments : List (List Char)} (h : ∀ s ∈ segments, KeepsToPath s) :
    KeepsToPath (Text.join '/' segments) := forall_mem_join (by decide) h

theorem of_subset {text rest : List Char} (h : KeepsToPath text) (hsubset : rest ⊆ text) :
    KeepsToPath rest := fun c hc => h c (hsubset hc)

/-- A drive letter keeps to the path. -/
theorem drive {letter : Char} (h : letter.isAlpha = true) : KeepsToPath [letter, ':'] :=
  cons (isPathChar_of_isUnreserved (by simp [Percent.isUnreserved, Char.isAlphanum, h]))
    (cons (by decide) nil)

end KeepsToPath

/-- What is taken after a segment keeps to the path if what was taken before does. -/
theorem keepsToPath_addSegment {taken : List (List Char)} (h : ∀ s ∈ taken, KeepsToPath s)
    (atEnd : Bool) (segment : List Char) :
    ∀ s ∈ addSegment atEnd taken segment, KeepsToPath s := by
  have hclose : ∀ {directory : List (List Char)}, (∀ s ∈ directory, KeepsToPath s) →
      ∀ s ∈ (if atEnd then [] :: directory else directory), KeepsToPath s := by
    intro directory hdirectory s hs
    split at hs
    · rcases List.mem_cons.mp hs with rfl | hs
      · exact KeepsToPath.nil
      · exact hdirectory s hs
    · exact hdirectory s hs
  have habove : ∀ s ∈ directoryAbove taken, KeepsToPath s := by
    intro s hs
    unfold directoryAbove at hs
    split at hs
    · exact absurd hs List.not_mem_nil
    · next last before =>
        split at hs
        · exact h s hs
        · exact h s (List.mem_cons_of_mem _ hs)
  unfold addSegment
  simp only
  split
  · exact hclose habove
  · split
    · exact hclose h
    · exact List.forall_mem_cons.mpr ⟨keepsToPath_encodeWith segment, h⟩

theorem keepsToPath_resolveFrom : ∀ {segments taken : List (List Char)},
    (∀ s ∈ taken, KeepsToPath s) → ∀ s ∈ resolveFrom taken segments, KeepsToPath s
  | [], taken, h => fun s hs => h s (List.mem_reverse.mp hs)
  | segment :: others, taken, h => by
      rw [resolveFrom]
      exact keepsToPath_resolveFrom (keepsToPath_addSegment h _ segment)

/-- The path of segments starts with a slash and keeps to its place. -/
theorem keepsToPath_pathText (segments : List (List Char)) : KeepsToPath (pathText segments) :=
  KeepsToPath.cons (by decide)
    (KeepsToPath.join (keepsToPath_resolveFrom fun _ hs => absurd hs List.not_mem_nil))

/-- A drive that was cut off is a drive letter. -/
theorem exists_letter_of_cutDrive? {segment drive rest : List Char}
    (h : cutDrive? segment = some (drive, rest)) :
    ∃ letter : Char, letter.isAlpha = true ∧ drive = [letter, ':'] := by
  unfold cutDrive? at h
  split at h
  · next letter _ _ =>
      split at h
      · split at h
        · next hletter =>
            simp only [Option.some.injEq, Prod.mk.injEq] at h
            simp only [Bool.and_eq_true] at hletter
            exact ⟨letter, hletter.1.1, h.1.symm⟩
        · cases h
      · cases h
  · cases h

theorem keepsToPath_resolveFile? : ∀ {segments taken result : List (List Char)},
    (∀ s ∈ taken, KeepsToPath s) → resolveFile? taken segments = some result →
      ∀ s ∈ result, KeepsToPath s
  | [], taken, result, h, hresult => by
      cases hresult
      exact fun s hs => h s (List.mem_reverse.mp hs)
  | segment :: others, taken, result, h, hresult => by
      have hadded := keepsToPath_addSegment h others.isEmpty (withoutBreaks segment)
      unfold resolveFile? at hresult
      simp only at hresult
      split at hresult
      · exact keepsToPath_resolveFile? hadded hresult
      · split at hresult
        · next drive rest hdrive =>
            obtain ⟨letter, hletter, rfl⟩ := exists_letter_of_cutDrive? hdrive
            refine keepsToPath_resolveFile? (fun s hs => ?_) hresult
            simp only [List.mem_cons, List.not_mem_nil, or_false] at hs
            rcases hs with rfl | rfl
            · exact keepsToPath_encodeWith rest
            · exact KeepsToPath.drive hletter
        · split at hresult
          · cases hresult
          · exact keepsToPath_resolveFile? hadded hresult

/-- A path that is empty or starts with a slash, and keeps to its place. -/
structure IsPath (path : List Char) : Prop where
  starts : path = [] ∨ path.head? = some '/'
  keeps : KeepsToPath path

theorem isPath_pathText (segments : List (List Char)) : IsPath (pathText segments) :=
  ⟨Or.inr rfl, keepsToPath_pathText segments⟩

theorem isPath_of_filePath? {text path : List Char} (h : filePath? text = some path) :
    IsPath path := by
  obtain ⟨segments, hsegments, rfl⟩ := Option.map_eq_some_iff.mp h
  have hkeeps := KeepsToPath.join
    (keepsToPath_resolveFile? (fun _ hs => absurd hs List.not_mem_nil) hsegments)
  exact ⟨Or.inr rfl,
    KeepsToPath.cons (by decide) (hkeeps.of_subset (List.dropWhile_suffix _).subset)⟩

theorem isPath_pathAfterAuthority (kind : SchemeKind) (text : List Char) :
    IsPath (Endpoint.pathAfterAuthority kind text) := by
  unfold Endpoint.pathAfterAuthority
  split
  · exact isPath_pathText _
  · split
    · exact ⟨Or.inr rfl, KeepsToPath.nil.cons (by decide)⟩
    · exact ⟨Or.inl rfl, KeepsToPath.nil⟩
  · exact isPath_pathText _

/-! ## Endpoints -/

/-- An endpoint whose parts keep to their places. -/
structure Endpoint.WellFormed (e : Endpoint) : Prop where
  scheme_ne_nil : e.scheme.toList ≠ []
  scheme_chars : ∀ c ∈ e.scheme.toList, isSchemeChar c = true
  host_clean : ∀ host, e.host = some host → host.IsClean
  isPath : IsPath e.path

/-- A scheme character is one in lower case too. -/
theorem isSchemeChar_toLower {c : Char} (h : isSchemeChar c = true) :
    isSchemeChar c.toLower = true := by
  unfold Char.toLower
  split
  · next hupper =>
      have hlow : 65 ≤ c.val.toNat := UInt32.le_iff_toNat_le.mp hupper.1
      have hhigh : c.val.toNat ≤ 90 := UInt32.le_iff_toNat_le.mp hupper.2
      have hsum : (c.val + 32).toNat = c.val.toNat + 32 := by
        rw [UInt32.toNat_add]
        simp only [UInt32.reduceToNat]
        omega
      have hletter : 97 ≤ c.val + 32 ∧ c.val + 32 ≤ 122 := by
        rw [UInt32.le_iff_toNat_le, UInt32.le_iff_toNat_le, hsum]
        simp only [UInt32.reduceToNat]
        omega
      simp [isSchemeChar, Char.isAlphanum, Char.isAlpha, Char.isLower, hletter]
  · exact h

theorem takeScheme?_chars {text rest : List Char} {scheme : String}
    (h : takeScheme? text = some (scheme, rest)) :
    scheme.toList ≠ [] ∧ ∀ c ∈ scheme.toList, isSchemeChar c = true := by
  unfold takeScheme? at h
  split at h
  · next first others _ htake _ =>
      split at h
      · simp only [Option.some.injEq, Prod.mk.injEq] at h
        rw [← h.1, String.toList_ofList, ← htake]
        refine ⟨by simp [htake], fun c hc => ?_⟩
        obtain ⟨d, hd, rfl⟩ := List.mem_map.mp hc
        exact isSchemeChar_toLower (List.all_eq_true.mp List.all_takeWhile d hd)
      · cases h
  · cases h

namespace Endpoint

theorem host_of_withPort {kind : SchemeKind} {host : Host} {text : List Char} {a : Authority}
    (h : withPort kind host text = .ok a) : a.host = some host := by
  obtain ⟨port, _, h⟩ := bind_eq_ok_iff.mp h
  cases h
  rfl

/-- The host of an authority keeps to it. -/
theorem isClean_of_readAuthority {kind : SchemeKind} {followed : Bool} {text : List Char}
    {a : Authority} (h : readAuthority kind followed text = .ok a) :
    ∀ host, a.host = some host → host.IsClean := by
  intro host hhost
  have hsame : ∀ {other : Host} {after : List Char}, withPort kind other after = .ok a →
      host = other := fun h => Option.some.inj (hhost.symm.trans (host_of_withPort h))
  unfold readAuthority at h
  simp only at h
  split at h
  · cases h
  · split at h
    · split at h
      · cases h
      · obtain ⟨other, hread, h⟩ := bind_eq_ok_iff.mp h
        exact hsame h ▸ isClean_of_readSpecialHost hread
    · obtain ⟨other, hread, h⟩ := bind_eq_ok_iff.mp h
      split at h
      · split at h
        · cases h
        · cases h
          cases hhost
      · exact hsame h ▸ isClean_of_readOtherHost hread

theorem wellFormed_of_ofAuthority {scheme : String} {text : List Char} {e : Endpoint}
    (hne : scheme.toList ≠ []) (hchars : ∀ c ∈ scheme.toList, isSchemeChar c = true)
    (h : ofAuthority scheme text = .ok e) : e.WellFormed := by
  obtain ⟨authority, hread, h⟩ := bind_eq_ok_iff.mp h
  cases h
  exact ⟨hne, hchars, isClean_of_readAuthority hread, isPath_pathAfterAuthority _ _⟩

/-- An endpoint without a host and with the path of the root. -/
theorem wellFormed_of_hostless {scheme : String} {path : List Char} (hne : scheme.toList ≠ [])
    (hchars : ∀ c ∈ scheme.toList, isSchemeChar c = true) (hpath : IsPath path) :
    Endpoint.WellFormed ⟨scheme, none, none, path⟩ :=
  ⟨hne, hchars, fun _ hhost => absurd hhost (by simp), hpath⟩

theorem wellFormed_of_ofFile {text : List Char} {e : Endpoint} (h : ofFile text = .ok e) :
    e.WellFormed := by
  have hne : "file".toList ≠ [] := by decide
  have hchars : ∀ c ∈ "file".toList, isSchemeChar c = true := List.all_eq_true.mp (by decide)
  have hhostless : Endpoint.WellFormed ⟨"file", none, none, ['/']⟩ :=
    wellFormed_of_hostless hne hchars ⟨Or.inr rfl, KeepsToPath.nil.cons (by decide)⟩
  unfold ofFile at h
  simp only at h
  split at h
  · cases h
    exact hhostless
  · next rest _ =>
      split at h
      · cases h
        exact hhostless
      · obtain ⟨host, hread, h⟩ := bind_eq_ok_iff.mp h
        split at h
        · cases h
          exact hhostless
        · cases h
          cases hon : ofFileOnHost? host (rest.dropWhile fun c => !endsAuthority .file c) with
          | none => exact hhostless
          | some e =>
              obtain ⟨path, hpath, rfl⟩ := Option.map_eq_some_iff.mp hon
              refine ⟨hne, hchars, fun other hother => ?_, isPath_of_filePath? hpath⟩
              cases hother
              exact isClean_of_readSpecialHost hread

/-- The parts of an endpoint that was read keep to their places. -/
theorem wellFormed_of_read {text : String} {e : Endpoint} (h : read text = .ok e) :
    e.WellFormed := by
  unfold read at h
  simp only at h
  split at h
  · cases h
  · next scheme rest hscheme =>
      obtain ⟨hne, hchars⟩ := takeScheme?_chars hscheme
      split at h
      · exact wellFormed_of_ofAuthority hne hchars h
      · exact wellFormed_of_ofFile h
      · split at h
        · exact wellFormed_of_ofAuthority hne hchars h
        · cases h
          exact wellFormed_of_hostless hne hchars ⟨Or.inl rfl, KeepsToPath.nil⟩

/-- The host header of an endpoint that was read keeps to the authority. -/
theorem WellFormed.keepsToAuthority_hostHeader {e : Endpoint} (wf : e.WellFormed)
    {host : List Char} (h : e.hostHeader? = some host) : KeepsToAuthority host := by
  obtain ⟨other, hother, rfl⟩ := Option.map_eq_some_iff.mp h
  have hclean : KeepsToAuthority other.text := wf.host_clean other hother
  cases e.port with
  | none => exact hclean
  | some port => exact hclean.append ((KeepsToAuthority.digits port).cons (by decide))

end Endpoint

end ObjectAccess.Url
