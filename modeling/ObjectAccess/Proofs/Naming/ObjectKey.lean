import Mathlib
import ObjectAccess.Naming.ObjectKey
import ObjectAccess.Proofs.Text.Pieces

/-!
# Keys that pass, and keys without slashes at their ends

A key passes its check just if it has 1 to 1024 octets (`checkObjectKey_eq_ok_iff`).

A key is normalised if it neither starts nor ends with a slash.  Trimming a path makes a
normalised key of it (`isNormalised_trimSlashes`) and leaves one that is normalised already
(`trimSlashes_of_isNormalised`), so the trimmed key is the only normalised one that the path is
made of with slashes around it (`trimSlashes_eq_iff`).  The key made for a copy is normalised if
the key of its source is (`isNormalised_copyKey`).
-/

namespace ObjectAccess

set_option autoImplicit false

/-! ## Trimmed text -/

namespace Text

variable {p : Char → Bool} {text : List Char} {c : Char}

theorem head?_dropWhile_eq_false (h : (text.dropWhile p).head? = some c) : p c = false := by
  have hhead := List.head?_dropWhile_not p text
  rw [h] at hhead
  exact hhead

/-- Trimmed text does not start with what is trimmed. -/
theorem eq_false_of_head?_trim (h : (trim p text).head? = some c) : p c = false := by
  obtain ⟨rest, hrest⟩ := dropEndWhile_isPrefix p (text.dropWhile p)
  have hhead : (text.dropWhile p).head? = some c := by
    rw [← hrest, List.head?_append]
    exact Option.or_eq_some_iff.mpr (Or.inl h)
  exact head?_dropWhile_eq_false hhead

/-- A text with its end trimmed does not end with what is trimmed. -/
theorem eq_false_of_getLast?_dropEndWhile (h : (dropEndWhile p text).getLast? = some c) :
    p c = false := by
  rw [dropEndWhile, List.getLast?_reverse] at h
  exact head?_dropWhile_eq_false h

/-- Trimmed text does not end with what is trimmed. -/
theorem eq_false_of_getLast?_trim (h : (trim p text).getLast? = some c) : p c = false :=
  eq_false_of_getLast?_dropEndWhile h

theorem dropWhile_eq_self (h : ∀ c, text.head? = some c → p c = false) :
    text.dropWhile p = text := by
  cases text with
  | nil => rfl
  | cons c rest => exact List.dropWhile_cons_of_neg (by simp [h c rfl])

/-- Trimming leaves a text that neither starts nor ends with what is trimmed. -/
theorem trim_eq_self (hhead : ∀ c, text.head? = some c → p c = false)
    (hlast : ∀ c, text.getLast? = some c → p c = false) : trim p text = text := by
  have hreverse : text.reverse.dropWhile p = text.reverse :=
    dropWhile_eq_self fun c hc => hlast c (by rwa [List.head?_reverse] at hc)
  rw [trim, dropWhile_eq_self hhead, dropEndWhile, hreverse, List.reverse_reverse]

/-- What is trimmed off the start is a run of the character. -/
theorem exists_replicate_dropWhile (c : Char) (text : List Char) :
    ∃ n, text = List.replicate n c ++ text.dropWhile (· = c) := by
  refine ⟨(text.takeWhile (· = c)).length, ?_⟩
  have hrun : text.takeWhile (· = c) = List.replicate (text.takeWhile (· = c)).length c := by
    refine List.eq_replicate_iff.mpr ⟨rfl, fun d hd => ?_⟩
    simpa using List.mem_takeWhile_imp hd
  rw [← hrun, List.takeWhile_append_dropWhile]

/-- What is trimmed off the end is a run of the character. -/
theorem exists_replicate_dropEndWhile (c : Char) (text : List Char) :
    ∃ n, text = dropEndWhile (· = c) text ++ List.replicate n c := by
  obtain ⟨n, hn⟩ := exists_replicate_dropWhile c text.reverse
  refine ⟨n, ?_⟩
  rw [dropEndWhile, ← List.reverse_replicate, ← List.reverse_append, ← hn, List.reverse_reverse]

theorem exists_replicate_trim (c : Char) (text : List Char) :
    ∃ m n, text = List.replicate m c ++ trim (· = c) text ++ List.replicate n c := by
  obtain ⟨m, hm⟩ := exists_replicate_dropWhile c text
  obtain ⟨n, hn⟩ := exists_replicate_dropEndWhile c (text.dropWhile (· = c))
  refine ⟨m, n, ?_⟩
  rw [trim, List.append_assoc, ← hn, ← hm]

/-- Runs of what is trimmed, put around a text, do not change the trimmed text. -/
theorem trim_replicate (h : p c = true) (m n : Nat) (text : List Char) :
    trim p (List.replicate m c ++ text ++ List.replicate n c) = trim p text := by
  have hrun (k : Nat) : ∀ d ∈ List.replicate k c, p d = true := fun d hd =>
    List.eq_of_mem_replicate hd ▸ h
  have hend (front : List Char) :
      dropEndWhile p (front ++ List.replicate n c) = dropEndWhile p front := by
    rw [dropEndWhile, List.reverse_append, List.reverse_replicate,
      List.dropWhile_append_of_pos (hrun n), dropEndWhile]
  rw [trim, List.append_assoc, List.dropWhile_append_of_pos (hrun m), List.dropWhile_append, trim]
  split
  · next hempty => rw [List.isEmpty_iff.mp hempty, List.dropWhile_replicate, if_pos h]
  · exact hend _

end Text

namespace Naming

open ObjectAccess.Text ObjectAccess.Time

/-- The keys that pass are those of 1 to 1024 octets. -/
theorem checkObjectKey_eq_ok_iff {key : String} :
    checkObjectKey key = .ok () ↔ 1 ≤ key.utf8ByteSize ∧ key.utf8ByteSize ≤ 1024 := by
  have hempty : key = "" ↔ key.utf8ByteSize = 0 := String.utf8ByteSize_eq_zero_iff.symm
  unfold checkObjectKey maxKeyOctets
  split
  · next hkey =>
      simp only [reduceCtorEq, false_iff]
      rw [hempty] at hkey
      omega
  · next hkey =>
      rw [hempty] at hkey
      split
      · simp only [reduceCtorEq, false_iff]
        omega
      · simp only [true_iff]
        omega

/-- Whether a key neither starts nor ends with a slash. -/
def IsNormalised (key : String) : Prop :=
  key.toList.head? ≠ some '/' ∧ key.toList.getLast? ≠ some '/'

instance (key : String) : Decidable (IsNormalised key) :=
  inferInstanceAs (Decidable (_ ∧ _))

theorem isNormalised_trimSlashes (path : String) : IsNormalised (trimSlashes path) := by
  unfold IsNormalised trimSlashes
  rw [String.toList_ofList]
  constructor
  · intro h
    cases eq_false_of_head?_trim h
  · intro h
    cases eq_false_of_getLast?_trim h

theorem trimSlashes_of_isNormalised {key : String} (h : IsNormalised key) :
    trimSlashes key = key := by
  have hne {o : Option Char} {c : Char} (ho : o ≠ some '/') (hc : o = some c) :
      decide (c = '/') = false := decide_eq_false fun heq => ho (heq ▸ hc)
  rw [trimSlashes, trim_eq_self (fun c => hne h.1) (fun c => hne h.2), String.ofList_toList]

/-- Whether a key is a path without the slashes at its ends. -/
def IsTrimmed (path key : String) : Prop :=
  (∃ m n, path.toList = List.replicate m '/' ++ key.toList ++ List.replicate n '/') ∧
    IsNormalised key

/-- Trimming a path gives the one key that is the path without the slashes at its ends. -/
theorem trimSlashes_eq_iff {path key : String} : trimSlashes path = key ↔ IsTrimmed path key := by
  constructor
  · rintro rfl
    refine ⟨?_, isNormalised_trimSlashes path⟩
    rw [trimSlashes, String.toList_ofList]
    exact exists_replicate_trim '/' path.toList
  · rintro ⟨⟨m, n, hpath⟩, hkey⟩
    rw [trimSlashes, hpath, trim_replicate (decide_eq_true rfl)]
    exact trimSlashes_of_isNormalised hkey

theorem isNormalised_copyKey {source : String} (h : IsNormalised source) (now : Instant) :
    IsNormalised (copyKey source now) := by
  unfold IsNormalised copyKey
  rw [String.toList_ofList]
  constructor
  · intro hhead
    cases hhead
  · intro hlast
    rw [List.getLast?_append, List.getLast?_cons, Option.some_or, Option.some.injEq] at hlast
    cases hsource : source.toList.getLast? with
    | none =>
        rw [hsource] at hlast
        cases hlast
    | some c =>
        rw [hsource, Option.getD_some] at hlast
        exact h.2 (hlast ▸ hsource)

end Naming

end ObjectAccess
