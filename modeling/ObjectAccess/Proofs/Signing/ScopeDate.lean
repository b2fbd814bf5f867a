import ObjectAccess.Proofs.Signing.Restated

/-!
# The date of a signing key

A request states two days.  The credential names the day that the signing key was derived for, and
the time of signing falls on a day as well.  A signer takes both from one instant, but the verifier
derives the key from the one, puts the other into the text that is signed, and does not compare
them.  So whoever holds the key of any day can sign for any time: an accepted request stays
accepted, at exactly the same instants, when its credential is given another day and it is signed
again with the key of that day (`accepted_with_any_scopeDate`).  What stands in the place of the day
does not even have to be one.
-/

namespace ObjectAccess.Signing

set_option autoImplicit false

open ObjectAccess.Text ObjectAccess.Time

/-- The same parameters with another day in the credential. -/
def SignedParameters.redated (p : SignedParameters) (date : List Char) : SignedParameters :=
  { p with scope := { p.scope with date := date } }

/-- Any text without a slash can be written in the place of the day. -/
theorem SignedParameters.Writable.redated {p : SignedParameters} {date : List Char}
    (h : p.Writable) (hdate : '/' ∉ date) : (p.redated date).Writable := by
  refine ⟨?_, h.signedHeaders_ne_nil, h.semicolon_not_mem⟩
  have hclean := h.slash_not_mem
  simp only [List.forall_mem_cons] at hclean ⊢
  exact ⟨hclean.1, hdate, hclean.2.2⟩

namespace SignedRequest

variable {r : SignedRequest} {p : SignedParameters} {date : List Char}

/-- A request that is accepted is accepted at the same instants with another day in its credential,
once it has the signature that is made with the key of that day. -/
theorem exists_redated {keyring : Keyring} {signer : Identity} {secret : String}
    {headers : List Header} (hread : SignedParameters.ofQuery r.query.toList = .ok p)
    (hexpires : p.expiresAt? = some signer.expiresAt)
    (hsigned : r.checkSignature p keyring signer.expiresAt = .ok signer)
    (hsecret : keyring (String.ofList p.accessKey) = .ok secret)
    (hheaders : collectHeaders r.headers p.signedHeaders = .ok headers) (hdate : '/' ∉ date) :
    ∃ (query : String) (signature : List Char),
      SignedParameters.ofQuery query.toList = .ok { p.redated date with signature := signature } ∧
      signature =
        { r with query := query }.expectedSignature (p.redated date) headers secret.toList ∧
      ∀ now, { r with query := query }.verify keyring now = r.verify keyring now := by
  have hwritable := (SignedParameters.ofQuery_eq_ok_iff.mp hread).writable
  obtain ⟨query, signature, hquery, hsignature, hverdict⟩ :=
    exists_restated hread (hwritable.redated hdate) rfl rfl hsecret hheaders hexpires
  obtain ⟨-, -, -, -, -, hsigner⟩ := checkSignature_eq_ok_iff.mp hsigned
  refine ⟨query, signature, hquery, hsignature, fun now => (hverdict now).trans ?_⟩
  rw [verify_of_checkSignature hread hexpires hsigned, hsigner]
  rfl

/-- **The day of the signing key does not have to be the day of signing.**  An accepted request has
the signature that is made with the key of the day in its credential, whatever its time of signing.
The texts that can be put in the place of that day are those without a slash: for each of them, and
for no other, there is a request that says the same apart from the day and the signature, has the
signature that is made with the key of the new day, and gets the same verdict at every instant. -/
theorem accepted_with_any_scopeDate {keyring : Keyring} {now : Instant} {signer : Identity}
    (h : r.verify keyring now = .accepted signer) :
    ∃ p secret headers, SignedParameters.ofQuery r.query.toList = .ok p ∧
      keyring (String.ofList p.accessKey) = .ok secret ∧
      collectHeaders r.headers p.signedHeaders = .ok headers ∧
      p.signature = r.expectedSignature p headers secret.toList ∧
      ∀ date, '/' ∉ date ↔ ∃ (query : String) (signature : List Char),
        SignedParameters.ofQuery query.toList =
          .ok { p.redated date with signature := signature } ∧
        signature =
          { r with query := query }.expectedSignature (p.redated date) headers secret.toList ∧
        ∀ other, { r with query := query }.verify keyring other = r.verify keyring other := by
  obtain ⟨p, hread, hexpires, -, hsigned⟩ := verify_eq_accepted_iff.mp h
  obtain ⟨secret, headers, hsecret, hheaders, hsignature, -⟩ :=
    checkSignature_eq_ok_iff.mp hsigned
  refine ⟨p, secret, headers, hread, hsecret, hheaders, hsignature.symm, fun date => ⟨?_, ?_⟩⟩
  · exact exists_redated hread hexpires hsigned hsecret hheaders
  · rintro ⟨query, signature, hquery, -, -⟩
    have hfrom := SignedParameters.ofQuery_eq_ok_iff.mp hquery
    exact hfrom.writable.slash_not_mem date (by simp [SignedParameters.redated])

/-- The day of the example. -/
theorem dateStamp_of_seconds {t : Instant} (h : t.seconds = 1369353600) :
    t.dateStamp = "20130524".toList := by
  rw [Instant.dateStamp, Instant.date, h]
  decide

/-- The theorem at the example, with the key of the day before. -/
theorem accepted_with_any_scopeDate_dayBefore :
    ∃ query signer p, { exampleSigned with query := query }.verify exampleKeyring exampleEnd =
        .accepted signer ∧
      SignedParameters.ofQuery query.toList = .ok p ∧ p.scope.date = "20130523".toList ∧
      p.signedAt.dateStamp = "20130524".toList := by
  obtain ⟨q, hreadq, hseconds, -, hverify⟩ := verify_exampleSigned
  obtain ⟨signer, haccepted⟩ := hverify exampleEnd (Or.inr rfl)
  obtain ⟨p, secret, headers, hread, -, -, -, hdates⟩ := accepted_with_any_scopeDate haccepted
  rw [hread] at hreadq
  cases hreadq
  obtain ⟨query, signature, hquery, -, hsame⟩ := (hdates "20130523".toList).mp (by decide)
  exact ⟨query, signer, _, (hsame exampleEnd).trans haccepted, hquery, rfl,
    dateStamp_of_seconds hseconds⟩

/-- A request can be accepted that was signed with the key of another day. -/
theorem exists_accepted_of_other_day :
    ¬∀ (r : SignedRequest) (keyring : Keyring) (now : Instant) (signer : Identity),
      r.verify keyring now = .accepted signer →
        ∃ p, SignedParameters.ofQuery r.query.toList = .ok p ∧
          p.scope.date = p.signedAt.dateStamp := by
  intro hall
  obtain ⟨q, hreadq, hseconds, -, hverify⟩ := verify_exampleSigned
  obtain ⟨signer, haccepted⟩ := hverify exampleEnd (Or.inr rfl)
  obtain ⟨p, hread, hexpires, -, hsigned⟩ := verify_eq_accepted_iff.mp haccepted
  rw [hread] at hreadq
  cases hreadq
  obtain ⟨secret, headers, hsecret, hheaders, -, -⟩ := checkSignature_eq_ok_iff.mp hsigned
  have hdate : '/' ∉ "20130523".toList := by decide
  obtain ⟨query, signature, hquery, -, hsame⟩ :=
    exists_redated hread hexpires hsigned hsecret hheaders hdate
  obtain ⟨p', hread', hday⟩ := hall { exampleSigned with query := query } exampleKeyring exampleEnd
    signer ((hsame exampleEnd).trans haccepted)
  rw [hquery] at hread'
  cases hread'
  have hother : "20130523".toList ≠ "20130524".toList := by decide
  exact hother (hday.trans (dateStamp_of_seconds hseconds))

end SignedRequest

end ObjectAccess.Signing
