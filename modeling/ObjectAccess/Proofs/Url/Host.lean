import ObjectAccess.Proofs.Idna.Domain
import ObjectAccess.Proofs.Percent
import ObjectAccess.Proofs.Text.Decimal
import ObjectAccess.Url.Host
import ObjectAccess.Url.RequestTarget

/-!
# Hosts keep to their place

The text of a host that was read holds no character that ends the authority of a request
target (`isClean_of_readSpecialHost`, `isClean_of_readOtherHost`), so a URL that is put
together from it is taken apart at the same place.  An address is written with digits, dots
and colons, a domain without denied characters, and any other host without those that no
host may contain.
-/

namespace ObjectAccess.Url

set_option autoImplicit false

open ObjectAccess.Text

/-- Whether no character of a text ends an authority. -/
def KeepsToAuthority (text : List Char) : Prop :=
  ∀ c ∈ text, RequestTarget.endsAuthority c = false

/-- Unreserved characters end no authority. -/
theorem endsAuthority_of_isUnreserved {c : Char} (h : Percent.isUnreserved c = true) :
    RequestTarget.endsAuthority c = false := by
  have hslash : c ≠ '/' := Percent.ne_of_isUnreserved h (by decide)
  have hmark : c ≠ '?' := Percent.ne_of_isUnreserved h (by decide)
  have hhash : c ≠ '#' := Percent.ne_of_isUnreserved h (by decide)
  simp [RequestTarget.endsAuthority, hslash, hmark, hhash]

theorem endsAuthority_of_isDigit {c : Char} (h : c.isDigit = true) :
    RequestTarget.endsAuthority c = false :=
  endsAuthority_of_isUnreserved (by simp [Percent.isUnreserved, Char.isAlphanum, h])

namespace KeepsToAuthority

theorem append {a b : List Char} (ha : KeepsToAuthority a) (hb : KeepsToAuthority b) :
    KeepsToAuthority (a ++ b) := fun c hc =>
  (List.mem_append.mp hc).elim (ha c) (hb c)

theorem cons {c : Char} {text : List Char} (hc : RequestTarget.endsAuthority c = false)
    (h : KeepsToAuthority text) : KeepsToAuthority (c :: text) :=
  List.forall_mem_cons.mpr ⟨hc, h⟩

theorem join {sep : Char} {ps : List (List Char)} (hsep : RequestTarget.endsAuthority sep = false)
    (h : ∀ p ∈ ps, KeepsToAuthority p) : KeepsToAuthority (Text.join sep ps) :=
  forall_mem_join hsep h

theorem digits (n : Nat) : KeepsToAuthority (Decimal.digits n) := fun _ hc =>
  endsAuthority_of_isDigit (Decimal.isDigit_of_mem_digits hc)

theorem hexDigits (n : Nat) : KeepsToAuthority (Hex.ofNat n) := by
  have hdigit : ∀ d < 16, RequestTarget.endsAuthority d.digitChar = false := by decide
  induction n using Nat.strongRecOn with
  | ind n ih =>
      intro c hc
      rw [Hex.ofNat, Nat.toDigits_eq_if (by decide)] at hc
      split at hc
      · next hlt => exact List.mem_singleton.mp hc ▸ hdigit n hlt
      · rcases List.mem_append.mp hc with hc | hc
        · exact ih (n / 16) (by omega) c hc
        · exact List.mem_singleton.mp hc ▸ hdigit _ (Nat.mod_lt _ (by decide))

end KeepsToAuthority

/-! ## Addresses -/

theorem keepsToAuthority_ipv4Text (address : Nat) : KeepsToAuthority (ipv4Text address) := by
  refine KeepsToAuthority.join (by decide) fun p hp => ?_
  obtain ⟨n, _, rfl⟩ := List.mem_map.mp hp
  exact KeepsToAuthority.digits n

theorem keepsToAuthority_groupsText (groups : List Nat) :
    KeepsToAuthority (groupsText groups) := by
  refine KeepsToAuthority.join (by decide) fun p hp => ?_
  obtain ⟨n, _, rfl⟩ := List.mem_map.mp hp
  exact KeepsToAuthority.hexDigits n

theorem keepsToAuthority_ipv6Text (groups : List Nat) : KeepsToAuthority (ipv6Text groups) := by
  unfold ipv6Text
  simp only
  split
  · exact keepsToAuthority_groupsText groups
  · exact (keepsToAuthority_groupsText _).append
      ((keepsToAuthority_groupsText _).cons (by decide) |>.cons (by decide))

/-! ## Hosts -/

/-- Whether the text of a host keeps to the authority. -/
def Host.IsClean (host : Host) : Prop := KeepsToAuthority host.text

theorem Host.isClean_ipv4 (address : Nat) : (Host.ipv4 address).IsClean :=
  keepsToAuthority_ipv4Text address

theorem Host.isClean_ipv6 (groups : List Nat) : (Host.ipv6 groups).IsClean := by
  refine KeepsToAuthority.cons (by decide) ((keepsToAuthority_ipv6Text groups).append ?_)
  exact fun c hc => List.mem_singleton.mp hc ▸ by decide

theorem isClean_of_readBracketed {text : List Char} {host : Host}
    (h : readBracketed text = .ok host) : host.IsClean := by
  unfold readBracketed at h
  split at h
  · split at h
    · cases h
      exact Host.isClean_ipv6 _
    · cases h
  · cases h

/-- A character that a domain may hold ends no authority. -/
theorem endsAuthority_of_isDenied {c : Char} (h : Idna.isDenied c = false) :
    RequestTarget.endsAuthority c = false := by
  have hne : ∀ d, Idna.isDenied d = true → c ≠ d := fun d hd e => by
    rw [e, hd] at h
    cases h
  simp [RequestTarget.endsAuthority, hne '/' (by decide), hne '?' (by decide),
    hne '#' (by decide)]

/-- The host of a special URL keeps to the authority. -/
theorem isClean_of_readSpecialHost {text : List Char} {host : Host}
    (h : readSpecialHost text = .ok host) : host.IsClean := by
  unfold readSpecialHost at h
  split at h
  · exact isClean_of_readBracketed h
  · split at h
    · cases h
    · next domain hdomain =>
        split at h
        · cases h
        · split at h
          · split at h
            · cases h
              exact Host.isClean_ipv4 _
            · cases h
          · cases h
            exact fun c hc => endsAuthority_of_isDenied (Idna.isDenied_of_mem_toAscii? hdomain hc)

/-- The host of any other URL keeps to the authority. -/
theorem isClean_of_readOtherHost {text : List Char} {host : Host}
    (h : readOtherHost text = .ok host) : host.IsClean := by
  unfold readOtherHost at h
  split at h
  · exact isClean_of_readBracketed h
  · split at h
    · cases h
    · next hallowed =>
        cases h
        intro c hc
        rcases Percent.mem_encodeWith hc with ⟨hmem, _⟩ | rfl | hc
        · have hne : ∀ d, isForbiddenInHost d = true → c ≠ d := fun d hd e =>
            hallowed (List.any_eq_true.mpr ⟨c, hmem, e ▸ hd⟩)
          simp [RequestTarget.endsAuthority, hne '/' (by decide), hne '?' (by decide),
            hne '#' (by decide)]
        · decide
        · exact endsAuthority_of_isUnreserved hc

end ObjectAccess.Url
