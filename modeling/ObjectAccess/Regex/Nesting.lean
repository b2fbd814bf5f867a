import ObjectAccess.Regex.Complaint
import ObjectAccess.Regex.Tree

/-!
# How deep a pattern is nested

Sets, unions and operators in sets, groups, repetitions, sequences and alternatives all
count as one level around what they hold.  The first part that lies too deep is refused.
-/

namespace ObjectAccess.Regex

set_option autoImplicit false

/-- Refuses a part that holds others if too many levels are around it. -/
def checkLevel (levels : Nat) (stretch : Stretch) : Except Complaint Unit :=
  if levels < deepestNesting then .ok () else .error ⟨.tooDeep, stretch, none⟩

mutual

/-- Checks the nesting of a set inside the levels around it. -/
def CharacterSet.checkNesting (levels : Nat) : CharacterSet → Except Complaint Unit
  | .bracketed stretch _ members => do
    checkLevel levels stretch
    members.checkNesting (levels + 1)
  | .union stretch sets => do
    checkLevel levels stretch
    checkSetNesting (levels + 1) sets
  | .combined stretch first second => do
    checkLevel levels stretch
    first.checkNesting (levels + 1)
    second.checkNesting (levels + 1)
  | _ => .ok ()

/-- Checks the nesting of sets one after the other. -/
def checkSetNesting (levels : Nat) : List CharacterSet → Except Complaint Unit
  | [] => .ok ()
  | s :: others => do
    s.checkNesting levels
    checkSetNesting levels others

end

mutual

/-- Checks the nesting of a pattern inside the levels around it. -/
def Tree.checkNesting (levels : Nat) : Tree → Except Complaint Unit
  | .set s => s.checkNesting levels
  | .repeated stretch part => do
    checkLevel levels stretch
    part.checkNesting (levels + 1)
  | .group stretch _ part => do
    checkLevel levels stretch
    part.checkNesting (levels + 1)
  | .sequence stretch parts => do
    checkLevel levels stretch
    checkPartNesting (levels + 1) parts
  | .alternatives stretch branches => do
    checkLevel levels stretch
    checkPartNesting (levels + 1) branches
  | _ => .ok ()

/-- Checks the nesting of parts one after the other. -/
def checkPartNesting (levels : Nat) : List Tree → Except Complaint Unit
  | [] => .ok ()
  | part :: others => do
    part.checkNesting levels
    checkPartNesting levels others

end

end ObjectAccess.Regex
