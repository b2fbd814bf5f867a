import ObjectAccess.Json.Failure
import ObjectAccess.Text.Hex

/-!
# The parts of a JSON text

Blanks, keywords, texts in quotes and numbers.  Every reader takes what it needs
from the front of the text and gives back the rest.

A whole number that does not fit 64 bits becomes a double.  The digits that fit
make its significand, those that do not only raise its exponent, and the power of
ten is applied by one multiplication or division.
-/

namespace ObjectAccess.Json

set_option autoImplicit false

open ObjectAccess.Text

/-! ## Blanks and keywords -/

/-- The characters that may stand between the parts of a JSON text. -/
def isJsonBlank (c : Char) : Bool := c = ' ' || c = '\n' || c = '\t' || c = '\r'

/-- The text without the blanks in front. -/
def skipBlank (text : List Char) : List Char := text.dropWhile isJsonBlank

/-- The text after the remaining letters of a keyword. -/
def keyword : List Char → List Char → Except Failure (List Char)
  | [], text => .ok text
  | _ :: _, [] => .error (.here .endInValue [])
  | expected :: others, c :: rest =>
    if c = expected then keyword others rest
    else .error (.next .keywordExpected (c :: rest))

/-! ## Texts in quotes -/

/-- The value of four hexadecimal digits. -/
def hexQuad (text : List Char) : Except Failure (Nat × List Char) :=
  if (octets (text.take 4)).length < 4 then .error (.here .endInString [])
  else
    match text with
    | a :: b :: c :: d :: rest =>
      match Hex.value? a, Hex.value? b, Hex.value? c, Hex.value? d with
      | some a, some b, some c, some d => .ok (((a * 16 + b) * 16 + c) * 16 + d, rest)
      | _, _, _, _ => .error ⟨.badEscape, text, 4, true⟩
    | _ => .error ⟨.badEscape, text, 4, true⟩

/-- The second half of a surrogate pair, with its `\u` in front. -/
def lowSurrogate (text : List Char) : Except Failure (Nat × List Char) :=
  match text with
  | [] => .error (.here .endInString [])
  | '\\' :: 'u' :: rest => do
    let (n, rest) ← hexQuad rest
    if 0xDC00 ≤ n ∧ n ≤ 0xDFFF then .ok (n, rest) else .error (.here .loneSurrogate rest)
  | '\\' :: [] => .error (.here .endInString [])
  | '\\' :: rest => .error (.next .brokenSurrogatePair rest)
  | _ => .error (.next .brokenSurrogatePair text)

/-- The character of a `\u` escape; a high surrogate needs the low one after it. -/
def unicodeEscape (text : List Char) : Except Failure (Char × List Char) := do
  let (n, rest) ← hexQuad text
  if 0xDC00 ≤ n ∧ n ≤ 0xDFFF then .error (.here .loneSurrogate rest)
  else if 0xD800 ≤ n ∧ n ≤ 0xDBFF then
    let (m, rest) ← lowSurrogate rest
    .ok (Char.ofNat (0x10000 + (n - 0xD800) * 1024 + (m - 0xDC00)), rest)
  else .ok (Char.ofNat n, rest)

/-- The character of an escape, after its backslash. -/
def escapeSequence (text : List Char) : Except Failure (Char × List Char) :=
  match text with
  | [] => .error (.here .endInString [])
  | c :: rest =>
    if c = '"' then .ok ('"', rest)
    else if c = '\\' then .ok ('\\', rest)
    else if c = '/' then .ok ('/', rest)
    else if c = 'b' then .ok ('\x08', rest)
    else if c = 'f' then .ok ('\x0C', rest)
    else if c = 'n' then .ok ('\n', rest)
    else if c = 'r' then .ok ('\r', rest)
    else if c = 't' then .ok ('\t', rest)
    else if c = 'u' then unicodeEscape rest
    else .error (.next .badEscape text)

/-- The characters up to the closing quote, at most `fuel` of them. -/
def quotedChars : Nat → List Char → Except Failure (List Char × List Char)
  | 0, _ => .error (.here .endInString [])
  | _ + 1, [] => .error (.here .endInString [])
  | fuel + 1, c :: rest =>
    if c = '"' then .ok ([], rest)
    else if c = '\\' then do
      let (escaped, rest) ← escapeSequence rest
      let (others, rest) ← quotedChars fuel rest
      .ok (escaped :: others, rest)
    else if c < ' ' then .error (.next .controlCharacter (c :: rest))
    else do
      let (others, rest) ← quotedChars fuel rest
      .ok (c :: others, rest)

/-- The text after its opening quote. -/
def quotedText (text : List Char) : Except Failure (String × List Char) := do
  let (chars, rest) ← quotedChars (text.length + 1) text
  .ok (String.ofList chars, rest)

/-! ## Numbers -/

/-- Continues a number with the digits that keep it below `2^64`. -/
def significand : Nat → List Char → Nat × List Char
  | n, [] => (n, [])
  | n, c :: rest =>
    if c.isDigit && n * 10 + Decimal.digitValue c < 0x10000000000000000 then
      significand (n * 10 + Decimal.digitValue c) rest
    else (n, c :: rest)

/-- Whether a digit comes next. -/
def digitNext : List Char → Bool
  | c :: _ => c.isDigit
  | [] => false

/-- Whether an exponent comes next. -/
def exponentNext : List Char → Bool
  | c :: _ => c = 'e' || c = 'E'
  | [] => false

/-- `f · 10^exponent`; nothing if that is infinite.  Powers below `10^-308` are divided out in
steps. -/
def scaleDouble : Nat → Float → Int → Option Float
  | 0, f, _ => some f
  | steps + 1, f, exponent =>
    if exponent.natAbs ≤ 308 then
      let power := Float.ofScientific 1 false exponent.natAbs
      if 0 ≤ exponent then
        let product := f * power
        if product.isInf then none else some product
      else some (f / power)
    else if f == 0.0 then some f
    else if 0 ≤ exponent then none
    else scaleDouble steps (f / Float.ofScientific 1 false 308) (exponent + 308)

/-- The number `± n · 10^exponent`. -/
def realNumber (positive : Bool) (n : Nat) (exponent : Int) (rest : List Char) :
    Except Failure (Number × List Char) :=
  match scaleDouble 4 (UInt64.ofNat n).toFloat exponent with
  | some f => .ok (.real (if positive then f else -f), rest)
  | none => .error (.here .numberOutOfRange rest)

/-- The digits of an exponent: its value, or nothing from `2^31` on, and the rest after the
last digit looked at. -/
def exponentDigits : Nat → List Char → Option Nat × List Char
  | n, [] => (some n, [])
  | n, c :: rest =>
    if c.isDigit then
      if n * 10 + Decimal.digitValue c < 0x80000000 then
        exponentDigits (n * 10 + Decimal.digitValue c) rest
      else (none, rest)
    else (some n, c :: rest)

/-- The number with the exponent that follows the letter `e`. -/
def withExponent (positive : Bool) (n : Nat) (exponent : Int) (text : List Char) :
    Except Failure (Number × List Char) :=
  let (negative, text) : Bool × List Char := match text with
    | '+' :: rest => (false, rest)
    | '-' :: rest => (true, rest)
    | _ => (false, text)
  match text with
  | [] => .error (.here .endInValue [])
  | c :: rest =>
    if c.isDigit then
      match exponentDigits (Decimal.digitValue c) rest with
      | (some e, rest) =>
        realNumber positive n (if negative then exponent - (e : Int) else exponent + (e : Int)) rest
      | (none, rest) =>
        if n ≠ 0 ∧ negative = false then .error (.here .numberOutOfRange rest)
        else .ok (.real (if positive then 0.0 else -0.0), rest.dropWhile Char.isDigit)
    else .error (.next .badNumber text)

/-- The number with the exponent that may come next. -/
def withOptionalExponent (positive : Bool) (n : Nat) (exponent : Int) (text : List Char) :
    Except Failure (Number × List Char) :=
  if exponentNext text then withExponent positive n exponent (text.drop 1)
  else realNumber positive n exponent text

/-- The number with the decimals that follow the point.  Digits past 64 bits are ignored. -/
def withDecimals (positive : Bool) (n : Nat) (exponent : Int) (text : List Char) :
    Except Failure (Number × List Char) :=
  let (m, rest) := significand n text
  let count := text.length - rest.length
  if digitNext rest then
    withOptionalExponent positive m (exponent - count) (rest.dropWhile Char.isDigit)
  else if count = 0 then
    match rest with
    | [] => .error (.here .endInValue [])
    | _ => .error (.next .badNumber rest)
  else withOptionalExponent positive m (exponent - count) rest

/-- The number whose whole part fits 64 bits. -/
def shortNumber (positive : Bool) (n : Nat) (text : List Char) :
    Except Failure (Number × List Char) :=
  match text with
  | '.' :: rest => withDecimals positive n 0 rest
  | _ =>
    if exponentNext text then withExponent positive n 0 (text.drop 1)
    else if positive then .ok (.integer n, text)
    else if 0 < n ∧ n ≤ 0x8000000000000000 then .ok (.integer (-(n : Int)), text)
    else .ok (.real (-(UInt64.ofNat n).toFloat), text)

/-- The number whose whole part has more digits than fit 64 bits. -/
def longNumber (positive : Bool) (n : Nat) (text : List Char) :
    Except Failure (Number × List Char) :=
  let rest := text.dropWhile Char.isDigit
  let exponent : Int := (text.length - rest.length : Nat)
  match rest with
  | '.' :: rest => withDecimals positive n exponent rest
  | _ => withOptionalExponent positive n exponent rest

/-- A number after its sign. -/
def numeral (positive : Bool) (text : List Char) : Except Failure (Number × List Char) :=
  match text with
  | [] => .error (.here .endInValue [])
  | c :: rest =>
    if c = '0' then
      if digitNext rest then .error (.next .badNumber rest) else shortNumber positive 0 rest
    else if c.isDigit then
      let (n, rest) := significand 0 text
      if digitNext rest then longNumber positive n rest else shortNumber positive n rest
    else .error (.next .badNumber text)

end ObjectAccess.Json
