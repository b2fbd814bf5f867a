import ObjectAccess.Proofs.Signing.Parameters
import ObjectAccess.Proofs.Time.Addition

/-!
# Expiries outside the calendar

Verification comes to no verdict just if the query can be read and the validity that it
states ends after the last instant of the calendar (`isGiven_iff_not_overruns`).  Nothing else
about the request matters, because the expiry is computed first.  A validity has at most
seven days, so such a request is dated in the last seven days of the calendar; the reader
of signing times takes these days if the year has a sign and white space after it.
-/

namespace ObjectAccess.Signing

set_option autoImplicit false

open ObjectAccess.Time ObjectAccess.Url

namespace SignedParameters

/-- The end of the validity has the fraction of the signing time. -/
theorem exists_expiresAt? {p : SignedParameters} (hpos : 1 ≤ p.expiresIn)
    (hhigh : p.signedAt.seconds + p.expiresIn ≤ maxSeconds) :
    ∃ t, p.expiresAt? = some t ∧ t.seconds = p.signedAt.seconds + p.expiresIn ∧
      t.nanos = p.signedAt.nanos % nanosPerSecond := by
  have hself : ((p.expiresIn.toNat : Nat) : Int) = p.expiresIn := Int.toNat_of_nonneg (by omega)
  have hnat : 0 < p.expiresIn.toNat := by omega
  obtain ⟨t, ht, hseconds, hnanos⟩ := p.signedAt.exists_add? hnat (by omega)
  exact ⟨t, ht, by omega, hnanos⟩

theorem expiresAt?_eq_none_iff {p : SignedParameters} (hpos : 1 ≤ p.expiresIn) :
    p.expiresAt? = none ↔ maxSeconds < p.signedAt.seconds + p.expiresIn := by
  have hself : ((p.expiresIn.toNat : Nat) : Int) = p.expiresIn := Int.toNat_of_nonneg (by omega)
  rw [expiresAt?, p.signedAt.add?_eq_none_iff (by omega), hself]

end SignedParameters

/-- The last seven days of the calendar are the last ones of its last year. -/
theorem date_of_last_week {t : Instant} (h : maxSeconds - 604800 < t.seconds) :
    t.date.year = 262142 ∧ t.date.month = 12 ∧ 25 ≤ t.date.day := by
  have hmax := t.le_max
  have hday : t.seconds / secondsPerDay = 95026230 ∨ t.seconds / secondsPerDay = 95026231 ∨
      t.seconds / secondsPerDay = 95026232 ∨ t.seconds / secondsPerDay = 95026233 ∨
      t.seconds / secondsPerDay = 95026234 ∨ t.seconds / secondsPerDay = 95026235 ∨
      t.seconds / secondsPerDay = 95026236 := by
    unfold maxSeconds at h hmax
    unfold secondsPerDay
    omega
  unfold Instant.date
  rcases hday with hday | hday | hday | hday | hday | hday | hday <;> rw [hday] <;> decide

/-- A query that can be read and that states a validity beyond the end of the calendar. -/
def Overruns (query : List Char) : Prop :=
  ∃ p, SignedParameters.ofQuery query = .ok p ∧
    maxSeconds < p.signedAt.seconds + p.expiresIn

/-- Whether verification accepts or refuses. -/
def Verdict.IsGiven (v : Verdict) : Prop :=
  (∃ signer, v = .accepted signer) ∨ ∃ reason, v = .refused reason

theorem Verdict.isGiven_iff {v : Verdict} : v.IsGiven ↔ v ≠ .outsideCalendar := by
  cases v <;> simp [IsGiven]

/-- There is no verdict just if the query overruns the calendar. -/
theorem verify_eq_outsideCalendar_iff (r : SignedRequest) (keyring : Keyring) (now : Instant) :
    r.verify keyring now = .outsideCalendar ↔ Overruns r.query.toList := by
  unfold SignedRequest.verify Overruns
  cases hread : SignedParameters.ofQuery r.query.toList with
  | error e => simp
  | ok p =>
      have hpos := (SignedParameters.ofQuery_eq_ok_iff.mp hread).expiresIn_range.1
      have hnone := SignedParameters.expiresAt?_eq_none_iff hpos
      simp only [Except.ok.injEq, exists_eq_left', ← hnone]
      cases p.expiresAt? with
      | none => simp
      | some t =>
          simp only [reduceCtorEq, iff_false]
          split
          · simp
          · split <;> simp

/-- There is no verdict on a URL just if it is one with a host and its query overruns the
calendar. -/
theorem verifyUrl_eq_outsideCalendar_iff (method url : String) (keyring : Keyring)
    (now : Instant) :
    verifyUrl method url keyring now = .outsideCalendar ↔
      ∃ target, RequestTarget.read url = .ok target ∧ target.authority ≠ none ∧
        Overruns (target.query.getD "").toList := by
  unfold verifyUrl
  cases RequestTarget.read url with
  | error e => simp
  | ok target =>
      simp only [Except.ok.injEq, exists_eq_left']
      cases target.authority with
      | none => simp
      | some authority => simp [verify_eq_outsideCalendar_iff]

/-- **Verification gives a verdict unless the validity ends outside the calendar.**  This holds of
requests and of URLs, whatever keys are known and whatever the time is, and a request without a
verdict was signed in the last seven days of the calendar. -/
theorem isGiven_iff_not_overruns (r : SignedRequest) (method url : String) (keyring : Keyring)
    (now : Instant) :
    ((r.verify keyring now).IsGiven ↔ ¬Overruns r.query.toList) ∧
    ((verifyUrl method url keyring now).IsGiven ↔
      ¬∃ target, RequestTarget.read url = .ok target ∧ target.authority ≠ none ∧
        Overruns (target.query.getD "").toList) ∧
    ∀ p, SignedParameters.ofQuery r.query.toList = .ok p →
      (p.expiresAt? = none ↔ maxSeconds < p.signedAt.seconds + p.expiresIn) ∧
      (p.expiresAt? = none →
        p.signedAt.date.year = 262142 ∧ p.signedAt.date.month = 12 ∧
          25 ≤ p.signedAt.date.day) := by
  refine ⟨?_, ?_, fun p hread => ?_⟩
  · rw [Verdict.isGiven_iff, ne_eq, verify_eq_outsideCalendar_iff]
  · rw [Verdict.isGiven_iff, ne_eq, verifyUrl_eq_outsideCalendar_iff]
  · have hrange := (SignedParameters.ofQuery_eq_ok_iff.mp hread).expiresIn_range
    have hnone := SignedParameters.expiresAt?_eq_none_iff hrange.1
    refine ⟨hnone, fun houtside => date_of_last_week ?_⟩
    have hover := hnone.mp houtside
    omega

/-- Parameters without a true signature, dated on the last day of the calendar. -/
def lastDay : List Parameter :=
  [("X-Amz-Algorithm".toList, algorithm),
    ("X-Amz-Credential".toList, "AKID/20200101/r/s3/aws4_request".toList),
    ("X-Amz-Date".toList, "+262142 1231T235959Z".toList),
    ("X-Amz-Expires".toList, "604800".toList),
    ("X-Amz-SignedHeaders".toList, "host".toList),
    ("X-Amz-Signature".toList, "00".toList)]

/-- What they say. -/
def lastDayRead : SignedParameters where
  accessKey := "AKID".toList
  scope := ⟨"20200101".toList, "r".toList, "s3".toList⟩
  signedAt := ⟨maxSeconds, 0, by decide, Int.le_refl _, Instant.epoch.nanos_lt, by decide⟩
  expiresIn := 604800
  signedHeaders := ["host".toList]
  signature := "00".toList

/-- A request with these parameters and nothing else. -/
def lastDayRequest : SignedRequest := ⟨"GET", "/", String.ofList (writtenQuery lastDay), []⟩

theorem ofQuery_lastDay :
    SignedParameters.ofQuery lastDayRequest.query.toList = .ok lastDayRead := by
  have hclean : ∀ p ∈ lastDay, p.Clean := by
    simp only [lastDay, List.forall_mem_cons]
    refine ⟨?_, ?_, ?_, ?_, ?_, ?_, fun _ h => absurd h List.not_mem_nil⟩ <;>
      exact ⟨by decide, by decide⟩
  have hvalue : ∀ name, parameter? lastDayRequest.query.toList name =
      (lastDay.reverse.find? fun p => p.1 = name.toList).map (·.2) := fun name => by
    rw [lastDayRequest, String.toList_ofList, parameter?_writtenQuery hclean]
  refine SignedParameters.ofQuery_eq_ok_iff.mpr ⟨?_, ⟨_, hvalue _, by decide⟩,
    ⟨_, hvalue _, by decide⟩, ⟨_, hvalue _, by decide⟩, by decide, ⟨_, hvalue _, by decide⟩, ?_⟩
  · rw [hvalue]
    decide
  · rw [hvalue]
    decide

/-- The theorem at that request, which nobody signed. -/
theorem not_isGiven_lastDay :
    ¬(lastDayRequest.verify (.ofList []) Instant.epoch).IsGiven ∧
      lastDayRead.expiresAt? = none ∧ lastDayRead.signedAt.date.year = 262142 := by
  have hlate : maxSeconds < lastDayRead.signedAt.seconds + lastDayRead.expiresIn := by decide
  obtain ⟨hgiven, -, hexpiry⟩ :=
    isGiven_iff_not_overruns lastDayRequest "GET" "" (.ofList []) Instant.epoch
  obtain ⟨hnone, hdate⟩ := hexpiry lastDayRead ofQuery_lastDay
  refine ⟨fun h => hgiven.mp h ⟨lastDayRead, ofQuery_lastDay, hlate⟩, hnone.mpr hlate, ?_⟩
  exact (hdate (hnone.mpr hlate)).1

/-- Verification does not always give a verdict. -/
theorem exists_no_verdict :
    ¬∀ (r : SignedRequest) (keyring : Keyring) (now : Instant),
      (r.verify keyring now).IsGiven := by
  intro hall
  exact Verdict.isGiven_iff.mp (hall lastDayRequest (.ofList []) Instant.epoch)
    ((verify_eq_outsideCalendar_iff _ _ _).mpr ⟨lastDayRead, ofQuery_lastDay, by decide⟩)

end ObjectAccess.Signing
