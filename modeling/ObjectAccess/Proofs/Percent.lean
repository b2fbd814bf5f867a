import ObjectAccess.Percent
import ObjectAccess.Proofs.Text.Pieces
import ObjectAccess.Proofs.Text.Utf8

/-!
# Escapes are undone by reading

Reading a component gives back the text that was written (`decode_encode`), whatever
characters it has, so a written component determines its text (`encode_injective`).
What is written has only unreserved characters and `%` in it (`mem_encode`), hence no
separator of a URL, and a written path has the slashes of the path besides
(`mem_encodePath`).  A path is read back as well (`decode_encodePath`): writing it segment by
segment is writing it as one text that keeps its slashes (`encodePath_eq_encodeWith`).
-/

namespace ObjectAccess

set_option autoImplicit false

open ObjectAccess.Text

/-! ## Digits -/

namespace Hex

theorem value?_upperDigit : ∀ n < 16, value? (upperDigit n) = some n := by decide

theorem upperDigit_unreserved : ∀ n < 16, Percent.isUnreserved (upperDigit n) = true := by decide

theorem lowerDigit_unreserved : ∀ n < 16, Percent.isUnreserved (lowerDigit n) = true := by decide

/-- Hexadecimal text consists of unreserved characters. -/
theorem isUnreserved_of_mem_encode {c : Char} {bytes : List UInt8} (h : c ∈ encode bytes) :
    Percent.isUnreserved c = true := by
  obtain ⟨b, _, hc⟩ := List.mem_flatMap.mp h
  have hb : b.toNat < 256 := b.toNat_lt_size
  simp only [List.mem_cons, List.not_mem_nil, or_false] at hc
  rcases hc with rfl | rfl
  · exact lowerDigit_unreserved _ (by omega)
  · exact lowerDigit_unreserved _ (by omega)

end Hex

namespace Percent

/-! ## What is written -/

/-- Unreserved characters are visible and ASCII. -/
theorem isUnreserved_range {c : Char} (h : isUnreserved c = true) :
    0x20 < c.val.toNat ∧ c.val.toNat < 0x7F := by
  simp only [isUnreserved, Char.isAlphanum, Char.isAlpha, Char.isUpper, Char.isLower,
    Char.isDigit, Bool.or_eq_true, Bool.and_eq_true, decide_eq_true_eq, ge_iff_le,
    UInt32.le_iff_toNat_le, Char.reduceVal, UInt32.reduceToNat] at h
  rcases h with (((((h | h) | h) | rfl) | rfl) | rfl) | rfl
  · omega
  · omega
  · omega
  all_goals decide

/-- A character that is not unreserved differs from all that are. -/
theorem ne_of_isUnreserved {c d : Char} (h : isUnreserved c = true) (hd : isUnreserved d = false) :
    c ≠ d := by
  rintro rfl
  exact absurd h (by simp [hd])

theorem mem_escapeChar {c d : Char} (h : c ∈ escapeChar d) : c = '%' ∨ isUnreserved c = true := by
  obtain ⟨b, _, hc⟩ := List.mem_flatMap.mp h
  have hb : b.toNat < 256 := b.toNat_lt_size
  simp only [escape, List.mem_cons, List.not_mem_nil, or_false] at hc
  rcases hc with hc | rfl | rfl
  · exact Or.inl hc
  · exact Or.inr (Hex.upperDigit_unreserved _ (by omega))
  · exact Or.inr (Hex.upperDigit_unreserved _ (by omega))

/-- Only characters of the text that are kept and those of escapes are written. -/
theorem mem_encodeWith {keep : Char → Bool} {c : Char} {text : List Char}
    (h : c ∈ encodeWith keep text) :
    (c ∈ text ∧ keep c = true) ∨ c = '%' ∨ isUnreserved c = true := by
  obtain ⟨d, hd, hc⟩ := List.mem_flatMap.mp h
  split at hc
  · next hkeep => exact Or.inl (List.mem_singleton.mp hc ▸ ⟨hd, hkeep⟩)
  · exact Or.inr (mem_escapeChar hc)

theorem mem_encode {c : Char} {text : List Char} (h : c ∈ encode text) :
    c = '%' ∨ isUnreserved c = true := by
  rcases mem_encodeWith h with ⟨_, h⟩ | h
  · exact Or.inr h
  · exact h

theorem not_mem_encode {c : Char} (hc : isUnreserved c = false) (hpercent : c ≠ '%')
    (text : List Char) : c ∉ encode text := by
  intro h
  rcases mem_encode h with h | h
  · exact hpercent h
  · exact ne_of_isUnreserved h hc rfl

/-- Unreserved characters are written as they are. -/
theorem encode_of_isUnreserved : ∀ {text : List Char}, (∀ c ∈ text, isUnreserved c = true) →
    encode text = text
  | [], _ => rfl
  | c :: others, h => by
      have ih : encode others = others :=
        encode_of_isUnreserved fun d hd => h d (List.mem_cons_of_mem _ hd)
      rw [encode, encodeWith, List.flatMap_cons, if_pos (h c (List.mem_cons_self ..))]
      exact congrArg (c :: ·) ih

theorem mem_encodePath {c : Char} {path : List Char} (h : c ∈ encodePath path) :
    c = '/' ∨ c = '%' ∨ isUnreserved c = true := by
  rcases mem_join h with h | ⟨p, hp, hc⟩
  · exact Or.inl h
  · obtain ⟨segment, _, rfl⟩ := List.mem_map.mp hp
    exact Or.inr (mem_encode hc)

/-- The segments of a written path are the written segments. -/
theorem pieces_encodePath (path : List Char) :
    pieces '/' (encodePath path) = (pieces '/' path).map encode := by
  refine pieces_join (by simp [pieces_ne_nil]) fun segment hsegment => ?_
  obtain ⟨original, -, rfl⟩ := List.mem_map.mp hsegment
  exact not_mem_encode (by decide) (by decide) _

/-- The characters that stand for themselves in a path. -/
def isKeptInSegments (c : Char) : Bool := isUnreserved c || c = '/'

/-- A segment and what follows its slash are written apart. -/
theorem encodePath_append {segment : List Char} (h : '/' ∉ segment) (rest : List Char) :
    encodePath (segment ++ '/' :: rest) = encode segment ++ '/' :: encodePath rest := by
  have hne : (pieces '/' rest).map encode ≠ [] := by simp [pieces_ne_nil]
  rw [encodePath, pieces_append rest h, List.map_cons, join_cons _ hne]
  rfl

theorem encodePath_slash (rest : List Char) :
    encodePath ('/' :: rest) = '/' :: encodePath rest :=
  encodePath_append List.not_mem_nil rest

/-- The first segment of a path is written character by character. -/
theorem encodePath_cons {c : Char} (hc : c ≠ '/') (rest : List Char) :
    encodePath (c :: rest) = encode [c] ++ encodePath rest := by
  have hcons : ∀ segment, encode (c :: segment) = encode [c] ++ encode segment := fun segment => by
    simp [encode, encodeWith]
  unfold encodePath
  rw [pieces, if_neg hc]
  cases h : pieces '/' rest with
  | nil => exact absurd h (pieces_ne_nil '/' rest)
  | cons segment others =>
      by_cases hothers : others = []
      · rw [hothers]
        exact hcons segment
      · have hne : others.map encode ≠ [] := by simp [hothers]
        simp only [List.map_cons]
        rw [hcons, join_cons _ hne, join_cons _ hne, List.append_assoc]

/-- A path is written as one text that keeps the slashes. -/
theorem encodePath_eq_encodeWith : ∀ path : List Char,
    encodePath path = encodeWith isKeptInSegments path
  | [] => rfl
  | c :: rest => by
      have ih := encodePath_eq_encodeWith rest
      have hcons : encodeWith isKeptInSegments (c :: rest) =
          encodeWith isKeptInSegments [c] ++ encodeWith isKeptInSegments rest := by
        simp [encodeWith]
      by_cases hc : c = '/'
      · subst hc
        rw [encodePath_slash, ih, hcons]
        rfl
      · have hkept : isKeptInSegments c = isUnreserved c := by
          rw [isKeptInSegments, decide_eq_false hc, Bool.or_false]
        have hchar : encodeWith isKeptInSegments [c] = encode [c] := by
          simp only [encode, encodeWith, List.flatMap_cons, List.flatMap_nil, hkept]
        rw [encodePath_cons hc, ih, hcons, hchar]

/-! ## Reading octets -/

/-- An octet that is no `%` is read as it is. -/
theorem decodeOctets_cons {a : UInt8} (ha : a ≠ 0x25) (rest : List UInt8) :
    decodeOctets (a :: rest) = a :: decodeOctets rest := by
  match rest with
  | [] => rfl
  | [_] => rfl
  | _ :: _ :: _ => rw [decodeOctets, escaped?, if_neg ha]

theorem octet_ne_percent {c : Char} (hascii : c.val.toNat < 0x80) (hc : c ≠ '%') :
    UInt8.ofNat c.val.toNat ≠ 0x25 := by
  intro h
  have hsize : c.val.toNat < UInt8.size := by
    simp only [UInt8.size]
    omega
  have hval : c.val.toNat = 0x25 := by
    rw [← UInt8.toNat_ofNat_of_lt' hsize, h]
    rfl
  exact hc (Char.toNat_inj.mp hval)

/-- Octets that are no `%` are read as they are. -/
theorem decodeOctets_append {bytes : List UInt8} (h : ∀ b ∈ bytes, b ≠ 0x25)
    (rest : List UInt8) : decodeOctets (bytes ++ rest) = bytes ++ decodeOctets rest := by
  induction bytes with
  | nil => rfl
  | cons b others ih =>
      rw [List.cons_append, decodeOctets_cons (h b (List.mem_cons_self ..)),
        ih fun c hc => h c (List.mem_cons_of_mem _ hc), List.cons_append]

/-- The octets of ASCII text without `%` are read as they are. -/
theorem decodeOctets_ascii (rest : List UInt8) {text : List Char}
    (h : ∀ c ∈ text, c.val.toNat < 0x80 ∧ c ≠ '%') :
    decodeOctets (octets text ++ rest) = octets text ++ decodeOctets rest := by
  refine decodeOctets_append (fun b hb => ?_) rest
  obtain ⟨c, hc, hb⟩ := List.mem_flatMap.mp hb
  obtain ⟨hascii, hpercent⟩ := h c hc
  rw [utf8EncodeChar_ascii hascii, List.mem_singleton] at hb
  rw [hb]
  exact octet_ne_percent hascii hpercent

theorem digitValue?_upperDigit {n : Nat} (hn : n < 16) :
    digitValue? (UInt8.ofNat (Hex.upperDigit n).val.toNat) = some n := by
  have hascii := isUnreserved_range (Hex.upperDigit_unreserved n hn)
  rw [digitValue?, UInt8.toNat_ofNat_of_lt' (by simp only [UInt8.size]; omega),
    ofNat_eq_self _ rfl, Hex.value?_upperDigit n hn]

/-- An escape is read as its octet. -/
theorem decodeOctets_escape (b : UInt8) (rest : List UInt8) :
    decodeOctets (octets (escape b) ++ rest) = b :: decodeOctets rest := by
  have hb : b.toNat < 256 := b.toNat_lt_size
  have hhigh : b.toNat / 16 < 16 := by omega
  have hlow : b.toNat % 16 < 16 := by omega
  have hdigit := fun n (hn : n < 16) => (isUnreserved_range (Hex.upperDigit_unreserved n hn)).2
  have hsum : UInt8.ofNat (b.toNat / 16 * 16 + b.toNat % 16) = b := by
    rw [Nat.div_add_mod']
    exact UInt8.ofNat_toNat
  rw [escape, octets_cons, octets_cons, octets_cons, utf8EncodeChar_ascii (by decide),
    utf8EncodeChar_ascii (by have := hdigit _ hhigh; omega),
    utf8EncodeChar_ascii (by have := hdigit _ hlow; omega)]
  simp only [octets_nil, List.append_nil, List.cons_append, List.nil_append]
  rw [decodeOctets, escaped?, if_pos (by decide), digitValue?_upperDigit hhigh,
    digitValue?_upperDigit hlow]
  simp only [hsum]

theorem decodeOctets_escapes (rest : List UInt8) : ∀ bytes : List UInt8,
    decodeOctets (octets (bytes.flatMap escape) ++ rest) = bytes ++ decodeOctets rest
  | [] => rfl
  | b :: others => by
      rw [List.flatMap_cons, octets_append, List.append_assoc, decodeOctets_escape,
        decodeOctets_escapes rest others, List.cons_append]

/-! ## Reading what was written -/

/-- Writing can keep any ASCII characters but the `%`. -/
theorem decodeOctets_encodeWith {keep : Char → Bool}
    (hkeep : ∀ c, keep c = true → c.val.toNat < 0x80 ∧ c ≠ '%') (rest : List UInt8) :
    ∀ text : List Char,
      decodeOctets (octets (encodeWith keep text) ++ rest) = octets text ++ decodeOctets rest
  | [] => rfl
  | c :: others => by
      have ih := decodeOctets_encodeWith hkeep rest others
      rw [encodeWith, List.flatMap_cons, octets_append, List.append_assoc]
      change decodeOctets (octets _ ++ (octets (encodeWith keep others) ++ rest)) = _
      split
      · next hc =>
          have hplain : ∀ d ∈ [c], d.val.toNat < 0x80 ∧ d ≠ '%' := by
            intro d hd
            rw [List.mem_singleton.mp hd]
            exact hkeep c hc
          rw [decodeOctets_ascii _ hplain, ih]
          simp
      · rw [escapeChar, decodeOctets_escapes, ih, octets_cons, List.append_assoc]

theorem decodeOctets_octets_encodeWith {keep : Char → Bool}
    (hkeep : ∀ c, keep c = true → c.val.toNat < 0x80 ∧ c ≠ '%') (text : List Char) :
    decodeOctets (octets (encodeWith keep text)) = octets text := by
  have h := decodeOctets_encodeWith hkeep [] text
  rwa [List.append_nil, show decodeOctets [] = [] from rfl, List.append_nil] at h

theorem decode_encodeWith {keep : Char → Bool}
    (hkeep : ∀ c, keep c = true → c.val.toNat < 0x80 ∧ c ≠ '%') (text : List Char) :
    decode (encodeWith keep text) = text := by
  rw [decode, decodeOctets_octets_encodeWith hkeep, decodeLossy_octets]

/-- Unreserved characters can be kept. -/
theorem plain_of_isUnreserved {c : Char} (h : isUnreserved c = true) :
    c.val.toNat < 0x80 ∧ c ≠ '%' := by
  have hrange := isUnreserved_range h
  exact ⟨by omega, ne_of_isUnreserved h (by decide)⟩

/-- Reading a component gives back the text that was written. -/
theorem decode_encode (text : List Char) : decode (encode text) = text :=
  decode_encodeWith (fun _ => plain_of_isUnreserved) text

/-- The slashes of a path can be kept as well. -/
theorem plain_of_isKeptInSegments {c : Char} (h : isKeptInSegments c = true) :
    c.val.toNat < 0x80 ∧ c ≠ '%' := by
  rw [isKeptInSegments, Bool.or_eq_true, decide_eq_true_eq] at h
  rcases h with h | rfl
  · exact plain_of_isUnreserved h
  · decide

/-- The escapes of a written path stand for the octets of the path. -/
theorem decodeOctets_encodePath (path : List Char) :
    decodeOctets (octets (encodePath path)) = octets path := by
  rw [encodePath_eq_encodeWith]
  exact decodeOctets_octets_encodeWith (fun _ => plain_of_isKeptInSegments) path

/-- Reading a written path gives back the path, since the slashes stand for themselves. -/
theorem decode_encodePath (path : List Char) : decode (encodePath path) = path := by
  rw [decode, decodeOctets_encodePath, decodeLossy_octets]

/-- Texts that are written alike are equal. -/
theorem encode_injective {a b : List Char} (h : encode a = encode b) : a = b := by
  rw [← decode_encode a, h, decode_encode]

theorem encode_inj {a b : List Char} : encode a = encode b ↔ a = b :=
  ⟨encode_injective, congrArg encode⟩

theorem encode_ne_nil {text : List Char} (h : text ≠ []) : encode text ≠ [] := by
  intro hnil
  rw [← decode_encode text, hnil] at h
  exact h rfl

end Percent

end ObjectAccess
