import ObjectAccess.Policy.Document
import ObjectAccess.Proofs.Json.Value

/-!
# Policy documents are read back

Each part of a document is recovered from its JSON value: the names of effects and actions, the
principal and the condition as records with one field, the statement with or without its
condition, and the document.  So both texts of a document are read as that document, and no two
documents share a text (`Document.ofText_texts`).  The strings in a document may hold any
characters, and nothing is asked of the version or of how many statements, actions and resources
there are.

A reader that knows nothing of policies takes the text too, as a document has no more than six
containers inside each other (`Document.parse_text`).
-/

namespace ObjectAccess.Policy

set_option autoImplicit false

open ObjectAccess.Json

/-! ## The parts of a statement -/

/-- A record with one field is recovered from an object with one member. -/
theorem recovers_singleton {α β : Type} (record name : String) {value : Decoder α} {v : Value}
    {x : α} (make : α → β) (h : Recovers value v x) :
    Recovers (singleton record name value make).read (.object [(name, v)]) (make x) := by
  have hfield : (singleton record name value make).fields.find? (·.name = name) =
      some (onlyField name value) := by
    simp [singleton, onlyField]
  have hfills : (singleton record name value make).Fills none [(name, v)] (some x) :=
    .cons hfield rfl (h.map some) (.nil (some x))
  exact Recovers.record hfills rfl rfl

theorem Principal.recovers (p : Principal) :
    Recovers Principal.read (.object [("AWS", .texts p.accounts)]) p :=
  recovers_singleton "Principal" "AWS" Principal.mk (Recovers.texts p.accounts)

theorem Condition.recovers (c : Condition) : Recovers Condition.read c.toJson c :=
  recovers_singleton "Condition" "StringEquals" id
    (recovers_singleton "PrefixEquals" "s3:prefix" Condition.mk (Recovers.texts c.prefixes))

theorem Effect.recovers (e : Effect) : Recovers Effect.read (.text e.name) e := by
  cases e
  exact Recovers.variant rfl

/-- Every action is found by its name. -/
theorem Action.find?_named (a : Action) : named.find? (·.1 = a.name) = some (a.name, a) := by
  cases a <;> decide

theorem Action.recovers (a : Action) : Recovers Action.read (.text a.name) a :=
  Recovers.variant (Action.find?_named a)

theorem Action.recovers_list (actions : List Action) :
    Recovers (Json.list Action.read) (.texts (actions.map (·.name))) actions := by
  rw [Value.texts, List.map_map]
  exact Recovers.list_map Action.recovers actions

/-! ## Statements -/

/-- The parts of a statement when its condition has not been read. -/
def Statement.draft (s : Statement) : StatementDraft where
  effect := some s.effect
  principal := some s.principal
  actions := some s.actions
  resources := some s.resources

/-- A field of a statement is set to what its member holds. -/
theorem recovers_statementField {α : Type} {value : Decoder α} {v : Value} {x : α}
    (h : Recovers value v x) (name : String) (get : StatementDraft → Option α)
    (set : StatementDraft → α → StatementDraft) (mayMiss : Bool) (draft : StatementDraft) :
    Recovers ((statementField name value get set mayMiss).read draft) v (set draft x) :=
  h.map (set draft)

/-- The four fields that every statement has, before others. -/
theorem Statement.fills {s : Statement} {others : List (String × Value)} {done : StatementDraft}
    (h : Statement.shape.Fills s.draft others done) :
    Statement.shape.Fills Statement.shape.blank
      (("Effect", .text s.effect.name) ::
        ("Principal", .object [("AWS", .texts s.principal.accounts)]) ::
        ("Action", .texts (s.actions.map (·.name))) :: ("Resource", .texts s.resources) :: others)
      done := by
  refine .cons rfl rfl (recovers_statementField s.effect.recovers _ _ _ _ _) ?_
  refine .cons rfl rfl (recovers_statementField s.principal.recovers _ _ _ _ _) ?_
  refine .cons rfl rfl (recovers_statementField (Action.recovers_list s.actions) _ _ _ _ _) ?_
  exact .cons rfl rfl (recovers_statementField (Recovers.texts s.resources) _ _ _ _ _) h

theorem Statement.recovers (s : Statement) : Recovers Statement.shape.read s.toJson s := by
  obtain ⟨effect, principal, actions, resources, condition⟩ := s
  cases condition with
  | none =>
      exact Recovers.record (Statement.fills (.nil _)) rfl rfl
  | some c =>
      have hcondition : Recovers (Json.optional Condition.read) c.toJson (some c) := by
        -- A condition is an object, so it does not start like `null`.
        apply c.recovers.optional
        intro l level more htext
        exact absurd (List.cons.inj htext).1 (by decide)
      have hfills (s : Statement) : Statement.shape.Fills s.draft [("Condition", c.toJson)]
          { s.draft with condition := some (some c) } :=
        .cons rfl rfl (recovers_statementField hcondition _ _ _ _ _) (.nil _)
      exact Recovers.record (Statement.fills (hfills _)) rfl rfl

/-- A statement has a condition member exactly if it has a condition. -/
theorem Statement.member?_condition (s : Statement) :
    s.toJson.member? "Condition" = s.condition.map Condition.toJson := by
  obtain ⟨effect, principal, actions, resources, condition⟩ := s
  cases condition <;> rfl

/-! ## Documents -/

theorem Document.recovers (d : Document) : Recovers Document.shape.read d.toJson d := by
  have hversion := (Recovers.string d.version).map fun x => DocumentDraft.mk (some x) none
  have hstatements := (Recovers.list_map Statement.recovers d.statements).map
    fun x => DocumentDraft.mk (some d.version) (some x)
  exact Recovers.record (.cons rfl rfl hversion (.cons rfl rfl hstatements (.nil _))) rfl rfl

/-- The text of a document in any layout is read as the document. -/
theorem Document.ofText_write (d : Document) (l : Layout) :
    Document.ofText (String.ofList (l.write 0 d.toJson)) = .ok d :=
  d.recovers.decodeText l

theorem Document.ofText_compactText (d : Document) : Document.ofText d.text = .ok d := by
  rw [Document.text, Value.compactText_eq, ofText_write]

theorem Document.ofText_prettyText (d : Document) : Document.ofText d.prettyText = .ok d := by
  rw [Document.prettyText, Value.prettyText_eq, ofText_write]

/-! ## As any JSON value -/

/-- A condition has containers on three levels. -/
theorem Condition.fits (c : Condition) (nesting : Nat) : c.toJson.Fits (nesting + 3) := by
  have hprefixes := Value.Fits.texts nesting c.prefixes
  exact .object (List.forall_mem_singleton.mpr (.object (List.forall_mem_singleton.mpr hprefixes)))

/-- A statement has containers on four levels. -/
theorem Statement.fits (s : Statement) (nesting : Nat) : s.toJson.Fits (nesting + 4) := by
  have htexts (items : List String) := Value.Fits.texts (nesting + 2) items
  have haccounts := Value.Fits.texts (nesting + 1) s.principal.accounts
  apply Value.Fits.object
  intro m hm
  rcases List.mem_append.mp hm with hm | hm
  · simp only [List.mem_cons, List.not_mem_nil, or_false] at hm
    rcases hm with rfl | rfl | rfl | rfl
    · exact .text _ _
    · exact .object (List.forall_mem_singleton.mpr haccounts)
    · exact htexts _
    · exact htexts _
  · cases hcondition : s.condition with
    | none => simp [hcondition] at hm
    | some c =>
        simp only [hcondition, List.mem_singleton] at hm
        subst hm
        exact c.fits nesting

/-- A document has containers on six levels. -/
theorem Document.fits (d : Document) (nesting : Nat) : d.toJson.Fits (nesting + 6) := by
  apply Value.Fits.object
  intro m hm
  simp only [List.mem_cons, List.not_mem_nil, or_false] at hm
  rcases hm with rfl | rfl
  · exact .text _ _
  · apply Value.Fits.list
    intro item hitem
    obtain ⟨s, -, rfl⟩ := List.mem_map.mp hitem
    exact s.fits nesting

/-- The text of a document is JSON: it is read as the value of the document with the members of
its objects sorted. -/
theorem Document.parse_text (d : Document) : Json.parse d.text = .ok d.toJson.sorted :=
  parse_compactText (d.fits 121)

/-! ## Both texts -/

/-- **Both texts of a document are read as that document**, whatever its strings hold.  So neither
text is shared by two documents, and a statement comes back without a condition exactly if its
value has no member for one. -/
theorem Document.ofText_texts (d : Document) :
    Document.ofText d.text = .ok d ∧ Document.ofText d.prettyText = .ok d ∧
      (∀ e : Document, d.text = e.text ∨ d.prettyText = e.prettyText → d = e) ∧
      ∀ s ∈ d.statements, s.toJson.member? "Condition" = s.condition.map Condition.toJson := by
  refine ⟨d.ofText_compactText, d.ofText_prettyText, ?_, fun s _ => s.member?_condition⟩
  intro e h
  cases h with
  | inl htext =>
      have hd := d.ofText_compactText
      rw [htext] at hd
      exact Except.ok.inj (hd.symm.trans e.ofText_compactText)
  | inr htext =>
      have hd := d.ofText_prettyText
      rw [htext] at hd
      exact Except.ok.inj (hd.symm.trans e.ofText_prettyText)

/-- A quote and a line break in a resource are escaped, and the text is read as the document. -/
example :
    let d : Document := ⟨"1", [.forAnyone [.getObject] ["a\"\n"] none]⟩
    d.text = "\x7b\"Version\":\"1\",\"Statement\":[\x7b\"Effect\":\"Allow\"," ++
        "\"Principal\":\x7b\"AWS\":[\"*\"]\x7d,\"Action\":[\"s3:GetObject\"]," ++
        "\"Resource\":[\"a\\\"\\n\"]\x7d]\x7d" ∧
      Document.ofText d.text = .ok d := by decide +kernel

end ObjectAccess.Policy
