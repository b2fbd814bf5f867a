import ObjectAccess.Json.Printer
import ObjectAccess.Json.Record
import ObjectAccess.Policy.Action

/-!
# Policy documents

A document is a list of statements, and a statement permits actions on resources,
possibly under a condition on the listed prefix.  Documents are written as JSON with
their fields in a fixed order and read back field by field; a statement without a
condition has no such field.
-/

namespace ObjectAccess.Policy

set_option autoImplicit false

open ObjectAccess.Json

/-- The effect of a statement.  Nothing is ever denied. -/
inductive Effect where
  | allow
  deriving DecidableEq, Repr

/-- The name of an effect in a policy. -/
def Effect.name : Effect → String
  | .allow => "Allow"

/-- Whom a statement is about. -/
structure Principal where
  accounts : List String
  deriving DecidableEq, Repr

/-- A restriction of a listing to some prefixes. -/
structure Condition where
  prefixes : List String
  deriving DecidableEq, Repr

/-- A permission. -/
structure Statement where
  effect : Effect
  principal : Principal
  actions : List Action
  resources : List String
  condition : Option Condition
  deriving DecidableEq, Repr

/-- A policy. -/
structure Document where
  version : String
  statements : List Statement
  deriving DecidableEq, Repr

/-- Everyone. -/
def Principal.anyone : Principal := ⟨["*"]⟩

/-- The version of the policy language. -/
def policyVersion : String := "2012-10-17"

/-- The document with the given statements. -/
def Document.ofStatements (statements : List Statement) : Document :=
  ⟨policyVersion, statements⟩

/-- A permission for everyone. -/
def Statement.forAnyone (actions : List Action) (resources : List String)
    (condition : Option Condition) : Statement :=
  ⟨.allow, .anyone, actions, resources, condition⟩

/-! ## Writing -/

/-- A condition as JSON. -/
def Condition.toJson (c : Condition) : Value :=
  .object [("StringEquals", .object [("s3:prefix", .texts c.prefixes)])]

/-- A statement as JSON. -/
def Statement.toJson (s : Statement) : Value :=
  .object ([("Effect", .text s.effect.name),
    ("Principal", .object [("AWS", .texts s.principal.accounts)]),
    ("Action", .texts (s.actions.map (·.name))), ("Resource", .texts s.resources)] ++
    match s.condition with
    | some c => [("Condition", c.toJson)]
    | none => [])

/-- A document as JSON. -/
def Document.toJson (d : Document) : Value :=
  .object [("Version", .text d.version), ("Statement", .list (d.statements.map (·.toJson)))]

/-- The text of a document without spaces. -/
def Document.text (d : Document) : String := d.toJson.compactText

/-- The text of a document on lines. -/
def Document.prettyText (d : Document) : String := d.toJson.prettyText

/-! ## Reading -/

/-- The only field of a record. -/
def onlyField {α : Type} (name : String) (value : Decoder α) : RecordField (Option α) where
  name := name
  isSet := Option.isSome
  read _ text := (value text).map fun (x, rest) => (some x, rest)
  mayMiss := false

/-- A record with one field. -/
def singleton {α β : Type} (record name : String) (value : Decoder α) (make : α → β) :
    Shape (Option α) β where
  name := record
  blank := none
  fields := [onlyField name value]
  build := Option.map make

/-- Reads a principal. -/
def Principal.read : Decoder Principal :=
  (singleton "Principal" "AWS" (Json.list string) Principal.mk).read

/-- Reads a condition. -/
def Condition.read : Decoder Condition :=
  (singleton "Condition" "StringEquals"
    (singleton "PrefixEquals" "s3:prefix" (Json.list string) Condition.mk).read id).read

/-- Reads an effect. -/
def Effect.read : Decoder Effect := variant [(Effect.allow.name, .allow)]

/-- Reads an action. -/
def Action.read : Decoder Action := variant Action.named

/-- The parts of a statement read so far. -/
structure StatementDraft where
  effect : Option Effect := none
  principal : Option Principal := none
  actions : Option (List Action) := none
  resources : Option (List String) := none
  /-- What the condition field held, which may be `null`. -/
  condition : Option (Option Condition) := none

/-- A field of a statement. -/
def statementField {α : Type} (name : String) (value : Decoder α)
    (get : StatementDraft → Option α) (set : StatementDraft → α → StatementDraft)
    (mayMiss : Bool) : RecordField StatementDraft where
  name := name
  isSet d := (get d).isSome
  read d text := (value text).map fun (x, rest) => (set d x, rest)
  mayMiss := mayMiss

/-- The JSON record of a statement. -/
def Statement.shape : Shape StatementDraft Statement where
  name := "Statement"
  blank := {}
  fields := [
    statementField "Effect" Effect.read (·.effect) (fun d x => { d with effect := some x }) false,
    statementField "Principal" Principal.read (·.principal)
      (fun d x => { d with principal := some x }) false,
    statementField "Action" (Json.list Action.read) (·.actions)
      (fun d x => { d with actions := some x }) false,
    statementField "Resource" (Json.list string) (·.resources)
      (fun d x => { d with resources := some x }) false,
    statementField "Condition" (optional Condition.read) (·.condition)
      (fun d x => { d with condition := some x }) true]
  build d := do
    return ⟨← d.effect, ← d.principal, ← d.actions, ← d.resources, d.condition.getD none⟩

/-- The parts of a document read so far. -/
structure DocumentDraft where
  version : Option String := none
  statements : Option (List Statement) := none

/-- The JSON record of a document. -/
def Document.shape : Shape DocumentDraft Document where
  name := "AccessPolicyDocument"
  blank := {}
  fields := [
    { name := "Version"
      isSet := fun d => d.version.isSome
      read := fun d text => (string text).map fun (x, rest) => ({ d with version := some x }, rest)
      mayMiss := false },
    { name := "Statement"
      isSet := fun d => d.statements.isSome
      read := fun d text => (Json.list Statement.shape.read text).map
        fun (x, rest) => ({ d with statements := some x }, rest)
      mayMiss := false }]
  build d := do return ⟨← d.version, ← d.statements⟩

/-- Reads a document from its text. -/
def Document.ofText (text : String) : Except String Document :=
  decodeText Document.shape.read text

end ObjectAccess.Policy
