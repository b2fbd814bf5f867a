import ObjectAccess.Proofs.Percent
import ObjectAccess.Proofs.Signing.CanonicalRequest
import ObjectAccess.Proofs.Steps
import ObjectAccess.Signing.Verify

/-!
# What the parameters of a signed request say

A query can be read just if each of its six parameters is there and can be read, and then
what is read follows from their values alone (`ofQuery_eq_ok_iff`).  A query that was joined
from parameters whose texts hold no separator has the values that were written
(`parameter?_writtenQuery`).
-/

namespace ObjectAccess.Signing

set_option autoImplicit false

open ObjectAccess.Text ObjectAccess.Time

/-- The seconds of validity are those from one second to seven days. -/
theorem isExpiry_iff {seconds : Int} :
    isExpiry seconds = true ↔ 1 ≤ seconds ∧ seconds ≤ 604800 := by
  rw [isExpiry, Bool.and_eq_true, decide_eq_true_eq, decide_eq_true_eq, maxExpirySeconds]

namespace SignedParameters

/-! ## Reading a query -/

theorem required_eq_ok_iff {query value : List Char} {name : String} :
    required query name = .ok value ↔ parameter? query name = some value := by
  unfold required
  cases parameter? query name <;> simp

theorem readExpiry_eq_ok_iff {text : List Char} {seconds : Int} :
    readExpiry text = .ok seconds ↔
      Decimal.readSigned? text = some seconds ∧ isExpiry seconds = true := by
  unfold readExpiry
  cases h : Decimal.readSigned? text with
  | none => simp
  | some n =>
      by_cases hn : isExpiry n = true
      · simp only [hn, if_true, Except.ok.injEq, Option.some.injEq]
        exact ⟨fun e => ⟨e, e ▸ hn⟩, And.left⟩
      · simp only [hn, if_false, reduceCtorEq, Option.some.injEq, false_iff, not_and]
        exact fun e => e ▸ hn

theorem readSigningTime_eq_ok_iff {text : List Char} {t : Instant} :
    readSigningTime text = .ok t ↔ Instant.ofStamp? text = some t := by
  unfold readSigningTime
  cases Instant.ofStamp? text <;> simp

/-- A credential has five parts, of which the last one is the end of every scope. -/
theorem readCredential_eq_ok_iff {text accessKey : List Char} {scope : Scope} :
    readCredential text = .ok (accessKey, scope) ↔
      piecesUpTo '/' 5 text = [accessKey, scope.date, scope.region, scope.service, scopeEnd] := by
  obtain ⟨date, region, service⟩ := scope
  unfold readCredential
  split
  · next key day place use last h =>
      rw [h]
      split
      · next hlast => simp [hlast]
      · next hlast => simp [hlast]
  · next hparts =>
      simp only [reduceCtorEq, false_iff]
      exact fun h => hparts _ _ _ _ _ h

/-- What the parameters of a query say. -/
structure ReadFrom (p : SignedParameters) (query : List Char) : Prop where
  usesAlgorithm : parameter? query "X-Amz-Algorithm" = some algorithm
  namesSigner : ∃ text, parameter? query "X-Amz-Credential" = some text ∧
    piecesUpTo '/' 5 text =
      [p.accessKey, p.scope.date, p.scope.region, p.scope.service, scopeEnd]
  namesTime : ∃ text, parameter? query "X-Amz-Date" = some text ∧
    Instant.ofStamp? text = some p.signedAt
  namesExpiry : ∃ text, parameter? query "X-Amz-Expires" = some text ∧
    Decimal.readSigned? text = some p.expiresIn
  limited : isExpiry p.expiresIn = true
  namesHeaders : ∃ text, parameter? query "X-Amz-SignedHeaders" = some text ∧
    pieces ';' text = p.signedHeaders
  signed : parameter? query "X-Amz-Signature" = some p.signature

/-- A query can be read just if its six parameters can, and they say what is read. -/
theorem ofQuery_eq_ok_iff {query : List Char} {p : SignedParameters} :
    ofQuery query = .ok p ↔ p.ReadFrom query := by
  constructor
  · intro h
    obtain ⟨name, hname, h⟩ := bind_eq_ok_iff.mp h
    split at h
    · cases h
    · next halgorithm =>
        obtain ⟨credential, hcredential, h⟩ := bind_eq_ok_iff.mp h
        obtain ⟨⟨accessKey, scope⟩, hsigner, h⟩ := bind_eq_ok_iff.mp h
        obtain ⟨date, hdate, h⟩ := bind_eq_ok_iff.mp h
        obtain ⟨signedAt, htime, h⟩ := bind_eq_ok_iff.mp h
        obtain ⟨expires, hexpires, h⟩ := bind_eq_ok_iff.mp h
        obtain ⟨expiresIn, hexpiry, h⟩ := bind_eq_ok_iff.mp h
        obtain ⟨headers, hheaders, h⟩ := bind_eq_ok_iff.mp h
        obtain ⟨signature, hsignature, h⟩ := bind_eq_ok_iff.mp h
        cases h
        rw [required_eq_ok_iff] at hname hcredential hdate hexpires hheaders hsignature
        have hlimited := readExpiry_eq_ok_iff.mp hexpiry
        rw [Decidable.not_not] at halgorithm
        exact ⟨halgorithm ▸ hname, ⟨credential, hcredential, readCredential_eq_ok_iff.mp hsigner⟩,
          ⟨date, hdate, readSigningTime_eq_ok_iff.mp htime⟩, ⟨expires, hexpires, hlimited.1⟩,
          hlimited.2, ⟨headers, hheaders, rfl⟩, hsignature⟩
  · rintro ⟨halgorithm, ⟨credential, hcredential, hsigner⟩, ⟨date, hdate, htime⟩,
      ⟨expires, hexpires, hexpiry⟩, hlimited, ⟨headers, hheaders, hpieces⟩, hsignature⟩
    refine bind_eq_ok_iff.mpr ⟨algorithm, required_eq_ok_iff.mpr halgorithm, ?_⟩
    rw [if_neg (by simp)]
    refine bind_eq_ok_iff.mpr ⟨credential, required_eq_ok_iff.mpr hcredential, ?_⟩
    refine bind_eq_ok_iff.mpr ⟨(p.accessKey, p.scope), readCredential_eq_ok_iff.mpr hsigner, ?_⟩
    refine bind_eq_ok_iff.mpr ⟨date, required_eq_ok_iff.mpr hdate, ?_⟩
    refine bind_eq_ok_iff.mpr ⟨p.signedAt, readSigningTime_eq_ok_iff.mpr htime, ?_⟩
    refine bind_eq_ok_iff.mpr ⟨expires, required_eq_ok_iff.mpr hexpires, ?_⟩
    refine bind_eq_ok_iff.mpr ⟨p.expiresIn, readExpiry_eq_ok_iff.mpr ⟨hexpiry, hlimited⟩, ?_⟩
    refine bind_eq_ok_iff.mpr ⟨headers, required_eq_ok_iff.mpr hheaders, ?_⟩
    refine bind_eq_ok_iff.mpr ⟨p.signature, required_eq_ok_iff.mpr hsignature, ?_⟩
    rw [hpieces]

/-- The validity of a request that can be read is from one second to seven days. -/
theorem ReadFrom.expiresIn_range {p : SignedParameters} {query : List Char}
    (h : p.ReadFrom query) : 1 ≤ p.expiresIn ∧ p.expiresIn ≤ 604800 :=
  isExpiry_iff.mp h.limited

end SignedParameters

/-! ## Written queries -/

/-- A query of parameters, with every value written as a component. -/
def writtenQuery (ps : List Parameter) : List Char :=
  join '&' (ps.map fun p => p.1 ++ '=' :: Percent.encode p.2)

theorem writtenQuery_append {ps qs : List Parameter} (hps : ps ≠ []) (hqs : qs ≠ []) :
    writtenQuery (ps ++ qs) = writtenQuery ps ++ '&' :: writtenQuery qs := by
  rw [writtenQuery, List.map_append, join_append (by simpa using hps) (by simpa using hqs)]
  rfl

/-- A parameter whose name keeps to its place in a query. -/
structure Parameter.Clean (p : Parameter) : Prop where
  equals_not_mem : '=' ∉ p.1
  ampersand_not_mem : '&' ∉ p.1

/-- A written parameter holds no `&`. -/
theorem Parameter.Clean.ampersand_not_mem_written {p : Parameter} (h : p.Clean) :
    '&' ∉ p.1 ++ '=' :: Percent.encode p.2 := by
  have hvalue : '&' ∉ Percent.encode p.2 := Percent.not_mem_encode (by decide) (by decide) p.2
  have hequals : '&' ≠ '=' := by decide
  simp [h.ampersand_not_mem, hvalue, hequals]

/-- A written query is cut into its parameters. -/
theorem pieces_writtenQuery {ps : List Parameter} (hne : ps ≠ []) (h : ∀ p ∈ ps, p.Clean) :
    pieces '&' (writtenQuery ps) = ps.map fun p => p.1 ++ '=' :: Percent.encode p.2 := by
  refine pieces_join (by simpa using hne) fun text htext => ?_
  obtain ⟨p, hp, rfl⟩ := List.mem_map.mp htext
  exact (h p hp).ampersand_not_mem_written

/-- The values of a written query, still as components. -/
theorem cut?_pieces_writtenQuery {ps : List Parameter} (h : ∀ p ∈ ps, p.Clean) :
    (pieces '&' (writtenQuery ps)).filterMap (cut? '=') =
      ps.map fun p => (p.1, Percent.encode p.2) := by
  have hread : (ps.map fun p => p.1 ++ '=' :: Percent.encode p.2).filterMap (cut? '=') =
      ps.map fun p => (p.1, Percent.encode p.2) := by
    induction ps with
    | nil => rfl
    | cons p others ih =>
        rw [List.map_cons, List.filterMap_cons,
          cut?_append _ (h p (List.mem_cons_self ..)).equals_not_mem]
        simp only [List.map_cons, ih fun q hq => h q (List.mem_cons_of_mem _ hq)]
  by_cases hnil : ps = []
  · rw [hnil]
    rfl
  · rw [pieces_writtenQuery hnil h, hread]

/-- The value of a parameter in a written query is the last one written under its name. -/
theorem parameter?_writtenQuery {ps : List Parameter} (h : ∀ p ∈ ps, p.Clean) (name : String) :
    parameter? (writtenQuery ps) name =
      (ps.reverse.find? fun p => p.1 = name.toList).map (·.2) := by
  rw [parameter?, cut?_pieces_writtenQuery h, ← List.map_reverse, List.find?_map, Option.map_map]
  refine congrArg (fun f => Option.map f _) (funext fun p => ?_)
  exact Percent.decode_encode p.2

end ObjectAccess.Signing
