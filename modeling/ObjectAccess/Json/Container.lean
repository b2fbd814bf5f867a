import ObjectAccess.Json.Lexeme

/-!
# Lists and objects

The readers of lists and objects, for any reader of their items.  They say exactly
where a comma, a name or the closing bracket is missed.  Every item takes at least
one character, so a loop over items ends within as many rounds as there are
characters; that bound is the `fuel` of the loops below, and no caller sees it.
-/

namespace ObjectAccess.Json

set_option autoImplicit false

variable {α : Type}

/-! ## Lists -/

/-- Whether another item follows in a list, with the text where it starts; if none does, the
closing bracket is what comes next. -/
def nextItem (isFirst : Bool) (text : List Char) : Except Failure (Bool × List Char) :=
  match skipBlank text with
  | [] => .error (.here .endInList [])
  | c :: rest =>
    if c = ']' then .ok (false, c :: rest)
    else if isFirst then .ok (true, c :: rest)
    else if c = ',' then
      match skipBlank rest with
      | [] => .error (.here .endInValue [])
      | d :: rest =>
        if d = ']' then .error (.next .trailingComma (d :: rest)) else .ok (true, d :: rest)
    else .error (.next .listEndExpected (c :: rest))

/-- The text after the closing bracket of a list whose items have been read. -/
def closeList (text : List Char) : Except Failure (List Char) :=
  match skipBlank text with
  | [] => .error (.here .endInList [])
  | c :: rest =>
    if c = ']' then .ok rest
    else if c = ',' then
      match skipBlank rest with
      | d :: rest => .error (.next (if d = ']' then .trailingComma else .trailingText) (d :: rest))
      | [] => .error (.next .trailingText [])
    else .error (.next .trailingText (c :: rest))

/-- Where a list is left after a failure inside it. -/
def leaveList (text : List Char) : List Char :=
  match skipBlank text with
  | ']' :: rest => rest
  | ',' :: rest => skipBlank rest
  | rest => rest

/-- The items up to the closing bracket. -/
def itemsFrom (item : Decoder α) : Nat → Bool → Decoder (List α)
  | 0, _, text => .error (.here .endInList text)
  | fuel + 1, isFirst, text => do
    let (more, text) ← nextItem isFirst text
    if more then
      let (x, text) ← item text
      let (others, text) ← itemsFrom item fuel false text
      .ok (x :: others, text)
    else .ok ([], text.drop 1)

/-- The items of a list after its opening bracket. -/
def items (item : Decoder α) : Decoder (List α) :=
  fun text => itemsFrom item (text.length + 1) true text

/-! ## Objects -/

/-- Whether another member follows in an object, with the text after the quote that opens its
name; if none does, the closing brace is what comes next. -/
def nextName (isFirst : Bool) (text : List Char) : Except Failure (Bool × List Char) :=
  match skipBlank text with
  | [] => .error (.here .endInObject [])
  | c :: rest =>
    if c = '\x7d' then .ok (false, c :: rest)
    else if isFirst then
      if c = '"' then .ok (true, rest) else .error (.next .nameExpected (c :: rest))
    else if c = ',' then
      match skipBlank rest with
      | [] => .error (.here .endInValue [])
      | d :: rest =>
        if d = '"' then .ok (true, rest)
        else if d = '\x7d' then .error (.next .trailingComma (d :: rest))
        else .error (.next .nameExpected (d :: rest))
    else .error (.next .objectEndExpected (c :: rest))

/-- The text after the colon between a name and its value. -/
def colon (text : List Char) : Except Failure (List Char) :=
  match skipBlank text with
  | [] => .error (.here .endInObject [])
  | c :: rest => if c = ':' then .ok rest else .error (.next .colonExpected (c :: rest))

/-- The text after the closing brace of an object whose members have been read. -/
def closeObject (text : List Char) : Except Failure (List Char) :=
  match skipBlank text with
  | [] => .error (.here .endInObject [])
  | c :: rest =>
    if c = '\x7d' then .ok rest
    else .error (.next (if c = ',' then .trailingComma else .trailingText) (c :: rest))

/-- Where an object is left after a failure inside it. -/
def leaveObject (text : List Char) : List Char :=
  match skipBlank text with
  | '\x7d' :: rest => rest
  | rest => rest

/-- The members up to the closing brace. -/
def membersFrom (value : Decoder α) : Nat → Bool → Decoder (List (String × α))
  | 0, _, text => .error (.here .endInObject text)
  | fuel + 1, isFirst, text => do
    let (more, text) ← nextName isFirst text
    if more then
      let (name, text) ← quotedText text
      let text ← colon text
      let (x, text) ← value text
      let (others, text) ← membersFrom value fuel false text
      .ok ((name, x) :: others, text)
    else .ok ([], text.drop 1)

/-- The members of an object after its opening brace, in the order of the text. -/
def members (value : Decoder α) : Decoder (List (String × α)) :=
  fun text => membersFrom value (text.length + 1) true text

end ObjectAccess.Json
