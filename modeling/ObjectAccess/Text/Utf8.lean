/-!
# Octets of text

Text goes to the digests and into URLs as UTF-8, and octets that come back out of
a URL need not be UTF-8 at all.  `octets` writes a text, and `decodeLossy` reads
any octets: a sequence that is no character becomes U+FFFD, one for each longest
start of a character, and reading goes on at the octet that broke it.

The reader is a machine that takes one octet at a time.  Between characters it is
idle; inside one it knows the bits read so far, how many octets are still owed and
in which range the next one has to lie.  The range is narrower than the
continuation octets only after `E0`, `ED`, `F0` and `F4`, which is how overlong
forms, surrogates and values past U+10FFFF are ruled out.
-/

namespace ObjectAccess.Text

set_option autoImplicit false

/-- The UTF-8 octets of a text. -/
def octets (text : List Char) : List UInt8 :=
  text.flatMap String.utf8EncodeChar

/-- What is read where the octets form no character. -/
def replacement : Char := '\uFFFD'

/-- Where the reader stands between two octets. -/
inductive Utf8State where
  /-- Between characters. -/
  | idle
  /-- Inside a character: the value read so far, the octets still owed after the next
  one, and the least and greatest value of the next one. -/
  | inside (value owed low high : Nat)
  deriving DecidableEq, Repr

/-- The first octet of a character: what it yields, and the state after it. -/
def firstOctet (b : Nat) : List Char × Utf8State :=
  if b < 0x80 then ([Char.ofNat b], .idle)
  else if b < 0xC2 then ([replacement], .idle)
  else if b < 0xE0 then ([], .inside (b - 0xC0) 0 0x80 0xBF)
  else if b < 0xF0 then
    ([], .inside (b - 0xE0) 1 (if b = 0xE0 then 0xA0 else 0x80) (if b = 0xED then 0x9F else 0xBF))
  else if b < 0xF5 then
    ([], .inside (b - 0xF0) 2 (if b = 0xF0 then 0x90 else 0x80) (if b = 0xF4 then 0x8F else 0xBF))
  else ([replacement], .idle)

/-- One octet: the characters it completes, and the state after it.  An octet that
breaks a character off is read again as a first octet. -/
def utf8Step : Utf8State → Nat → List Char × Utf8State
  | .idle, b => firstOctet b
  | .inside value owed low high, b =>
    if low ≤ b ∧ b ≤ high then
      match owed with
      | 0 => ([Char.ofNat (value * 64 + (b - 0x80))], .idle)
      | more + 1 => ([], .inside (value * 64 + (b - 0x80)) more 0x80 0xBF)
    else
      let (read, state) := firstOctet b
      (replacement :: read, state)

/-- Reads octets from a given state to the end. -/
def decodeFrom : Utf8State → List UInt8 → List Char
  | .idle, [] => []
  | .inside _ _ _ _, [] => [replacement]
  | state, b :: rest =>
    (utf8Step state b.toNat).1 ++ decodeFrom (utf8Step state b.toNat).2 rest

/-- Reads octets as UTF-8, with U+FFFD for each longest start of a character that
does not complete. -/
def decodeLossy (bytes : List UInt8) : List Char := decodeFrom .idle bytes

end ObjectAccess.Text
