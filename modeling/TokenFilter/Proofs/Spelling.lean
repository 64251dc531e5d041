import TokenFilter.Proofs.Paths

set_option autoImplicit false

namespace TokenFilter

namespace Path

def key (segment : String) : String := Text.folded (Text.trimmed segment)

def SameSpelling (path other : String) : Prop := (segments path).map key = (segments other).map key

instance (path other : String) : Decidable (SameSpelling path other) :=
  inferInstanceAs (Decidable ((segments path).map key = (segments other).map key))

theorem same_spelling_cons (path other : String) (same : SameSpelling path other) :
    key (head path) = key (head other) ∧ (segments path).tail.map key = (segments other).tail.map key := by
  rw [SameSpelling, segments_cons path, segments_cons other] at same
  exact List.cons.inj same

end Path

theorem SchemaOf.field_spelled (schema : Schema) (segment other : String) (same : Path.key segment = Path.key other) :
    schema.field? segment = schema.field? other := by
  have slots : schema.slot? segment = schema.slot? other := congrArg schema.slotNamed? same
  rw [field?, field?, slots]

theorem SchemaOf.knows_spelled (schema : Schema) (path other : String) (same : Path.SameSpelling path other) :
    schema.Knows path ↔ schema.Knows other := by
  rw [knows_iff, knows_iff, field_spelled schema _ _ (Path.same_spelling_cons path other same).1]

theorem to_option_map {ε α β : Type} (x : Except ε α) (f : α → β) : (x.map f).toOption = x.toOption.map f := by
  cases x <;> rfl

theorem Path.follow_spelled (root path root' path' : String) (current : Schema) (segment segment' : String)
    (rest rest' : List String) (same : key segment = key segment') (sameRest : rest.map key = rest'.map key) :
    (follow root path current segment rest).toOption = (follow root' path' current segment' rest').toOption := by
  induction rest generalizing current segment segment' rest' with
  | nil =>
      obtain rfl : rest' = [] := by simpa using sameRest.symm
      rw [follow, follow, current.field_spelled segment segment' same]
      cases current.field? segment' <;> rfl
  | cons next rest ih =>
      cases rest' with
      | nil => cases sameRest
      | cons next' rest' =>
          obtain ⟨sameNext, sameOthers⟩ := List.cons.inj sameRest
          rw [follow, follow, current.field_spelled segment segment' same]
          cases current.field? segment' with
          | none => rfl
          | some found =>
              obtain ⟨slot, field⟩ := found
              cases record : field.kind.record? with
              | none => simp only [record]; rfl
              | some inner =>
                  simp only [record, to_option_map]
                  rw [ih inner next next' rest' sameNext sameOthers]

theorem resolve_spelled (schema : Schema) (path other : String) (same : Path.SameSpelling path other) :
    (schema.resolve path).toOption = (schema.resolve other).toOption := by
  obtain ⟨first, others⟩ := Path.same_spelling_cons path other same
  exact Path.follow_spelled _ _ _ _ schema _ _ _ _ first others

end TokenFilter
