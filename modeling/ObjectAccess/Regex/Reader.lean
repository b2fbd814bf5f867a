import ObjectAccess.Regex.CharacterSet
import ObjectAccess.Text.Alphanumeric

/-!
# Reading patterns

A pattern has alternatives with bars between them, and an alternative is a sequence of
parts: atoms, sets, groups, settings of flags, and repetitions of the part before them.
Groups are read by recursion; one that is not closed is blamed on its opening
parenthesis, the innermost one first.
-/

namespace ObjectAccess.Regex

set_option autoImplicit false

open ObjectAccess.Text

/-! ## Alternatives -/

/-- The alternatives of a group or of the whole pattern as far as they were read. -/
structure Alternatives where
  start : Place
  /-- Where the last alternative starts. -/
  branchStart : Place
  /-- The alternatives before the last one, the nearest one first. -/
  branches : List Tree := []
  /-- The parts of the last alternative, the last one first. -/
  parts : List Tree := []

namespace Alternatives

/-- Nothing read yet at a place. -/
def startingAt (place : Place) : Alternatives := { start := place, branchStart := place }

/-- One more part. -/
def push (a : Alternatives) (part : Tree) : Alternatives := { a with parts := part :: a.parts }

/-- The last alternative, which ends at a place. -/
def branch (a : Alternatives) (stop : Place) : Tree :=
  Tree.ofParts ⟨a.branchStart, stop⟩ a.parts.reverse

/-- A new alternative at a place after a bar at another one. -/
def next (a : Alternatives) (bar start : Place) : Alternatives :=
  { a with branchStart := start, branches := a.branch bar :: a.branches, parts := [] }

/-- The whole, which ends at a place. -/
def toTree (a : Alternatives) (stop : Place) : Tree :=
  if a.branches.isEmpty then a.branch stop
  else .alternatives ⟨a.start, stop⟩ (a.branch stop :: a.branches).reverse

end Alternatives

namespace Reading

/-! ## Flags -/

/-- A flag, or the negation of those after it as nothing, and where it stands. -/
abbrev FlagMark := Option Flag × Stretch

/-- A mark after those before it, which come in order; a second one of a kind is refused. -/
def addMark (marks : List FlagMark) (flag? : Option Flag) : Reading (List FlagMark) := do
  let stretch ← charStretch
  match marks.lookup flag? with
  | some first =>
    throw ⟨if flag?.isNone then .negationTwice else .flagTwice, stretch, some first⟩
  | none => return marks ++ [(flag?, stretch)]

/-- The flags of a group up to the colon or the parenthesis after them. -/
def readMarks (marks : List FlagMark) : Nat → Reading (List FlagMark)
  | 0 => refuseHere .flagsUnfinished
  | fuel + 1 => do
    match ← peek? with
    | none => refuseHere .flagsUnfinished
    | some c =>
      if c = ':' ∨ c = ')' then
        match marks.getLast? with
        | some (none, stretch) => refuse .negationDangling stretch
        | _ => return marks
      else
        let flag? := Flag.ofChar? c
        if c ≠ '-' && flag?.isNone then refuseChar .flagUnknown
        let marks ← addMark marks flag?
        next
        readMarks marks fuel

/-- What marks switch on, and off after a negation. -/
def settingOf : Bool → List FlagMark → Setting
  | _, [] => []
  | _, (none, _) :: marks => settingOf false marks
  | on, (some flag, _) :: marks => (flag, on) :: settingOf on marks

/-! ## The start of a group -/

/-- Whether the name of a group may have a character. -/
def isNameChar (isFirst : Bool) (c : Char) : Bool :=
  if isFirst then c = '_' || isLetter c else "_.[]".toList.contains c || isAlphanumeric c

/-- The characters of a name up to the closing angle bracket. -/
def readNameChars (isFirst : Bool) : Nat → Reading (List Char)
  | 0 => refuseHere .nameUnfinished
  | fuel + 1 => do
    match ← peek? with
    | none => refuseHere .nameUnfinished
    | some c =>
      if c = '>' then return []
      else if isNameChar isFirst c then
        next
        return c :: (← readNameChars false fuel)
      else refuseChar .nameCharacter

/-- The name of a group and the bracket after it.  No two groups have one name. -/
def readName : Reading Unit := do
  let start ← here
  let name ← readNameChars true (← fuel)
  let stretch ← since start
  next
  if name = [] then refuse .nameEmpty stretch
  match (← get).names.lookup name with
  | some first => throw ⟨.nameTwice, stretch, some first⟩
  | none => modify fun k => { k with names := k.names ++ [(name, stretch)] }

/-- What an opening parenthesis starts. -/
inductive Start where
  /-- Flags for what follows, with their closing parenthesis. -/
  | setting (part : Tree) (setting : Setting)
  /-- A group whose parts come next. -/
  | group (opening : Stretch) (setting : Setting)

/-- The four starts of an assertion about what stands around. -/
def lookAroundStarts : List String := ["?=", "?!", "?<=", "?<!"]

/-- Passes over the first of the texts that comes next, if any does. -/
def takeAny : List String → Reading Bool
  | [] => return false
  | text :: others => do if ← take text then return true else takeAny others

/-- The start of a group with flags, after the question mark at a place. -/
def readFlagged (opening : Stretch) (mark : Place) : Reading Start := do
  if (← peek?).isNone then refuse .groupUnclosed opening
  let marks ← readMarks [] (← fuel)
  let closes := (← peek?) = some ')'
  next
  if !closes then return .group opening (settingOf true marks)
  else if marks = [] then refuse .nothingToRepeat ⟨mark, mark⟩
  else
    let setting := settingOf true marks
    return .setting (.flags (← since opening.start) setting) setting

/-- What an opening parenthesis starts; the cursor is at it. -/
def readStart : Reading Start := do
  let opening ← charStretch
  let _ ← advance
  let mark ← here
  if ← takeAny lookAroundStarts then refuseSince .lookAround opening.start
  if ← takeAny ["?P<", "?<"] then
    readName
    return .group opening []
  if ← take "?" then readFlagged opening mark
  else return .group opening []

/-! ## Repetitions -/

/-- The part that a repetition at the cursor repeats, and what comes before it. -/
def partToRepeat (a : Alternatives) : Reading (Tree × Alternatives) := do
  match a.parts with
  | [] => refuseHere .nothingToRepeat
  | .flags _ _ :: _ => refuseHere .nothingToRepeat
  | part :: before => return (part, { a with parts := before })

/-- A question mark that turns the greed of a repetition around. -/
def readGreed : Reading Unit := do if (← peek?) = some '?' then next

/-- A repetition by a single sign; the cursor is at it. -/
def readRepetition (a : Alternatives) : Reading Alternatives := do
  let (part, before) ← partToRepeat a
  next
  readGreed
  return before.push (.repeated (← since part.stretch.start) part)

/-- A number, or the complaint about it.  Blanks around it do not matter. -/
def readCount : Reading (Except Complaint Nat) := do
  let _ ← readWhile isBlank next (← fuel)
  let start ← here
  let digits ← readWhile Char.isDigit (do next; skip) (← fuel)
  let stretch ← since start
  let _ ← readWhile isBlank (do next; skip) (← fuel)
  if digits = [] then return .error ⟨.countEmpty, stretch, none⟩
  else if Decimal.value digits < 0x100000000 then return .ok (Decimal.value digits)
  else return .error ⟨.countTooLarge, stretch, none⟩

/-- What follows a comma in the count of a repetition: the most repetitions, if they are limited;
the result says whether that is as many as the least. -/
def readMost (start : Place) (least : Except Complaint Nat) : Reading Bool := do
  match ← advance with
  | none => refuseSince .countUnclosed start
  | some c =>
    if c = '\x7d' then
      let _ ← liftM least
      return true
    else
      let least ← liftM least
      return decide (least ≤ (← liftM (← readCount)))

/-- A repetition by counts in braces; the cursor is at the opening one. -/
def readCounted (a : Alternatives) : Reading Alternatives := do
  let start ← here
  let (part, before) ← partToRepeat a
  if (← advance).isNone then refuseSince .countUnclosed start
  let least ← readCount
  let isOrdered ← match ← peek? with
    | none => refuseSince .countUnclosed start
    | some ',' => readMost start least
    | some _ => do
      let _ ← liftM least
      pure true
  if (← peek?) ≠ some '\x7d' then refuseSince .countUnclosed start
  let _ ← advance
  readGreed
  if !isOrdered then refuseSince .countOrder start
  return before.push (.repeated (← since part.stretch.start) part)

/-! ## Everything -/

/-- An atom; the cursor is at its first character. -/
def readAtom (c : Char) : Reading Atom := do
  if c = '\\' then readEscape
  else
    let stretch ← charStretch
    next
    if c = '.' then return .any stretch
    else if c = '^' ∨ c = '$' then return .anchor stretch
    else return .literal { stretch := stretch, value := c }

/-- Whether blanks are ignored once a setting holds. -/
def ignoreBlanks (setting : Setting) : Reading Unit :=
  modify fun k =>
    { k with ignoresBlanks := (setting.lookup .ignoreBlanks).getD k.ignoresBlanks }

/-- The alternatives of the group that opens with a stretch, or of the whole pattern, after those
that were read.  The closing parenthesis is left. -/
def readAlternatives (opening? : Option Stretch) (a : Alternatives) : Nat → Reading Tree
  | 0 => return a.toTree (← here)
  | fuel + 1 => do
    skip
    match ← peek?, opening? with
    | none, some opening => refuse .groupUnclosed opening
    | none, none => return a.toTree (← here)
    | some ')', some _ => return a.toTree (← here)
    | some ')', none => refuseChar .groupUnopened
    | some '|', _ =>
      let bar ← here
      next
      readAlternatives opening? (a.next bar (← here)) fuel
    | some '(', _ =>
      match ← readStart with
      | .setting part setting =>
        ignoreBlanks setting
        readAlternatives opening? (a.push part) fuel
      | .group opening setting =>
        let outside := (← get).ignoresBlanks
        ignoreBlanks setting
        let inner ← readAlternatives (some opening) (Alternatives.startingAt (← here)) fuel
        modify fun k => { k with ignoresBlanks := outside }
        next
        let part := .group (← since opening.start) setting inner
        readAlternatives opening? (a.push part) fuel
    | some '[', _ => do readAlternatives opening? (a.push (.set (← readSet))) fuel
    | some '\x7b', _ => do readAlternatives opening? (← readCounted a) fuel
    | some c, _ =>
      if c = '?' ∨ c = '*' ∨ c = '+' then readAlternatives opening? (← readRepetition a) fuel
      else readAlternatives opening? (a.push (.atom (← readAtom c))) fuel

end Reading

/-- Reads a pattern. -/
def Tree.read (pattern : List Char) : Except Complaint Tree :=
  let reading := do
    Reading.readAlternatives none (Alternatives.startingAt (← Reading.here)) (← Reading.fuel)
  reading.run' { rest := pattern }

end ObjectAccess.Regex
