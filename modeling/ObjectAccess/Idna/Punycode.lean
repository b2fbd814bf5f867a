/-!
# Punycode

A label with characters beyond ASCII is written in ASCII: first its ASCII characters,
then, after a hyphen, for each other character in the order of the code points how
many steps lie between its place and that of the one before.  A step goes to the next
place of the same code point, or after the last place to the first place of the
next code point.

A number of steps is written with the least digit first.  A digit below the threshold of
its place ends the number, and the thresholds adapt to how large the numbers were so
far.
-/

namespace ObjectAccess.Idna.Punycode

set_option autoImplicit false

/-! ## Numbers -/

/-- The digit of a value below 36. -/
def digit (value : Nat) : Char :=
  if value < 26 then Char.ofNat ('a'.toNat + value) else Char.ofNat ('0'.toNat + (value - 26))

/-- The value of a digit. -/
def digitValue? (c : Char) : Option Nat :=
  if 'a' ≤ c && c ≤ 'z' then some (c.toNat - 'a'.toNat)
  else if 'A' ≤ c && c ≤ 'Z' then some (c.toNat - 'A'.toNat)
  else if '0' ≤ c && c ≤ '9' then some (c.toNat - '0'.toNat + 26)
  else none

/-- The threshold of a place, of which the first one is 36 and the others follow in steps of 36. -/
def threshold (bias place : Nat) : Nat := min 26 (max 1 (place - bias))

theorem threshold_pos (bias place : Nat) : 1 ≤ threshold bias place := by
  unfold threshold
  omega

theorem threshold_le (bias place : Nat) : threshold bias place ≤ 26 := by
  unfold threshold
  omega

/-- How often 35 goes into a number until at most 455 is left, in steps of 36, and what is left. -/
def reduce (delta : Nat) (steps : Nat) : Nat × Nat :=
  if 455 < delta then reduce (delta / 35) (steps + 36) else (delta, steps)
termination_by delta

/-- The bias after a number was written as the `count`-th one. -/
def adapt (delta count : Nat) (isFirst : Bool) : Nat :=
  let scaled := if isFirst then delta / 700 else delta / 2
  let (left, steps) := reduce (scaled + scaled / count) 0
  steps + 36 * left / (left + 38)

/-- The digits of a number from a place on. -/
def writeNumber (bias place n : Nat) : List Char :=
  let t := threshold bias place
  if n < t then [digit n]
  else digit (t + (n - t) % (36 - t)) :: writeNumber bias (place + 36) ((n - t) / (36 - t))
termination_by n
decreasing_by
  have hpos := threshold_pos bias place
  have hle : (n - threshold bias place) / (36 - threshold bias place) ≤ n - threshold bias place :=
    Nat.div_le_self _ _
  omega

/-- Reads a number from a place on, where a digit counts `weight` times: the number and the rest. -/
def readNumber? (bias : Nat) : Nat → Nat → List Char → Option (Nat × List Char)
  | _, _, [] => none
  | place, weight, c :: rest =>
    match digitValue? c with
    | none => none
    | some d =>
      if d < threshold bias place then some (d * weight, rest)
      else
        (readNumber? bias (place + 36) (weight * (36 - threshold bias place)) rest).map
          fun (n, rest) => (d * weight + n, rest)

/-- A number takes at least one digit. -/
theorem readNumber?_length {bias : Nat} : ∀ {place weight : Nat} {text : List Char} {n : Nat}
    {rest : List Char}, readNumber? bias place weight text = some (n, rest) →
      rest.length < text.length
  | _, _, [], _, _, h => by simp [readNumber?] at h
  | place, weight, c :: tail, n, rest, h => by
      unfold readNumber? at h
      split at h
      · simp at h
      · split at h
        · simp only [Option.some.injEq, Prod.mk.injEq] at h
          rw [← h.2]
          simp
        · obtain ⟨⟨m, r⟩, hm, hr⟩ := Option.map_eq_some_iff.mp h
          simp only [Prod.mk.injEq] at hr
          have := readNumber?_length hm
          rw [← hr.2]
          simp only [List.length_cons]
          omega

/-! ## Writing -/

/-- Where the writer stands: the steps since the last number, the bias, and how many characters are
written. -/
structure Writer where
  delta : Nat
  bias : Nat
  count : Nat
  output : List Char

/-- Passes one place of the text on the round of a code point. -/
def Writer.pass (basic point : Nat) (w : Writer) (c : Char) : Writer :=
  if c.toNat < point then { w with delta := w.delta + 1 }
  else if c.toNat = point then
    { delta := 0
      bias := adapt w.delta (w.count + 1) (w.count = basic)
      count := w.count + 1
      output := w.output ++ writeNumber w.bias 36 w.delta }
  else w

/-- Goes through the rounds of the code points that occur, in ascending order.  All code points
below `reached` have had theirs. -/
def Writer.rounds (basic : Nat) (text : List Char) (reached : Nat) (w : Writer) :
    List Nat → Writer
  | [] => w
  | point :: points =>
    let start := { w with delta := w.delta + (point - reached) * (w.count + 1) }
    let after := text.foldl (Writer.pass basic point) start
    rounds basic text (point + 1) { after with delta := after.delta + 1 } points

/-- Whether a character is ASCII. -/
def isAscii (c : Char) : Bool := c.toNat < 128

/-- The code points beyond ASCII in a text, in ascending order, each one once. -/
def laterPoints (text : List Char) : List Nat :=
  ((text.filter (!isAscii ·)).map Char.toNat).mergeSort.eraseDups

/-- The ASCII form of a text. -/
def encode (text : List Char) : List Char :=
  let basic := text.filter isAscii
  let written := Writer.rounds basic.length text 128 ⟨0, 72, basic.length, []⟩ (laterPoints text)
  if basic.isEmpty then written.output else basic ++ '-' :: written.output

/-! ## Reading -/

/-- The character of a code point, if it is one. -/
def character? (point : Nat) : Option Char :=
  if h : point.isValidChar then some (Char.ofNatAux point h) else none

/-- Puts characters into a text.  The next one has at least the code point `point`, and at that one
a place not before `place`. -/
def insertAll (bias point place : Nat) (isFirst : Bool) (text : List Char) (coded : List Char) :
    Option (List Char) :=
  if coded = [] then some text
  else
    match _h : readNumber? bias 36 1 coded with
    | none => none
    | some (n, rest) =>
      let places := text.length + 1
      match character? (point + (place + n) / places) with
      | none => none
      | some c =>
        insertAll (adapt n places isFirst) c.toNat ((place + n) % places + 1) false
          (text.insertIdx ((place + n) % places) c) rest
termination_by coded.length
decreasing_by exact readNumber?_length _h

/-- The text of an ASCII form.  The hyphen before the numbers stands only after ASCII characters;
where there are none, it is no hyphen to be passed over and no digit either. -/
def decode? (coded : List Char) : Option (List Char) :=
  let (reversedNumbers, reversedBasic) := coded.reverse.span (· ≠ '-')
  if reversedBasic = ['-'] then none
  else
    let basic := (reversedBasic.drop 1).reverse
    if basic.all isAscii then insertAll 72 128 0 true basic reversedNumbers.reverse else none

end ObjectAccess.Idna.Punycode
