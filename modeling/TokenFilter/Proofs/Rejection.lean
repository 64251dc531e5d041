import TokenFilter.Proofs.Paths
import TokenFilter.Proofs.Reading
import TokenFilter.Proofs.Tokens

set_option autoImplicit false

namespace TokenFilter

namespace SchemaOf

inductive Rejects (schema : Schema) (entry : Entry) : Error → Prop where
  | path {e : Error} (failed : schema.resolve entry.path = .error e) : Rejects schema entry e
  | token {route : Path.Route} {before after : List String} {text : String} {e : Error}
      (resolved : schema.resolve entry.path = .ok route) (split : entry.tokens = before ++ text :: after)
      (passed : ∀ earlier ∈ before, ∃ token, Token.read (.ofKind route.kind.leaf) earlier = .ok token)
      (failed : Token.read (.ofKind route.kind.leaf) text = .error e) : Rejects schema entry e

theorem is_known_iff (schema : Schema) (entry : Entry) :
    schema.isKnown entry = true ↔ schema.Knows entry.path := by
  simp [isKnown, headField?, knows_iff]

theorem read_entry_error_iff (schema : Schema) (entry : Entry) (e : Error) :
    schema.readEntry entry = .error e ↔ schema.Rejects entry e := by
  unfold readEntry
  cases resolved : schema.resolve entry.path with
  | error failure =>
      constructor
      · intro same
        cases same
        exact .path resolved
      · intro rejected
        cases rejected with
        | path failed =>
            cases resolved.symm.trans failed
            rfl
        | token found split passed failed => cases resolved.symm.trans found
  | ok route =>
      change ((entry.tokens.mapM (Token.read (.ofKind route.kind.leaf))).map _ = _) ↔ _
      rw [except_map_error_iff, map_m_error_iff]
      constructor
      · intro someFailure
        obtain ⟨before, text, after, split, passed, failed⟩ := someFailure
        exact .token resolved split passed failed
      · intro rejected
        cases rejected with
        | path failed => cases resolved.symm.trans failed
        | token found split passed failed =>
            cases resolved.symm.trans found
            exact ⟨_, _, _, split, passed, failed⟩

theorem not_rejected_iff (schema : Schema) (entry : Entry) :
    (∀ e, ¬ schema.Rejects entry e) ↔ ∃ reading, schema.readEntry entry = .ok reading := by
  simp only [← read_entry_error_iff]
  cases schema.readEntry entry <;> simp

theorem rejected_iff (schema : Schema) (entry : Entry) :
    (∃ e, schema.Rejects entry e) ↔
      (∃ e, schema.resolve entry.path = .error e) ∨
        ∃ route, schema.resolve entry.path = .ok route ∧
          ∃ text ∈ entry.tokens, ∃ e, Token.read (.ofKind route.kind.leaf) text = .error e := by
  simp only [← read_entry_error_iff, readEntry]
  cases resolved : schema.resolve entry.path with
  | error failure => simp [Except.bind]
  | ok route =>
      change (∃ e, (entry.tokens.mapM (Token.read (.ofKind route.kind.leaf))).map _ = .error e) ↔ _
      simp only [except_map_error_iff, map_m_fails_iff]
      simp

end SchemaOf

theorem compile_error_iff (schema : Schema) (query : Query) (combination : Combination) (e : Error) :
    (compile schema query combination).result = .error e ↔
      ∃ before entry after, query = before ++ entry :: after ∧
        (∀ earlier ∈ before, schema.Knows earlier.path → ∀ other, ¬ schema.Rejects earlier other) ∧
        schema.Knows entry.path ∧ schema.Rejects entry e := by
  rw [compile_result, except_map_error_iff, SchemaOf.readQuery, filter_map_m_error_iff]
  simp only [SchemaOf.is_known_iff, SchemaOf.not_rejected_iff, SchemaOf.read_entry_error_iff]

theorem compile_fails_iff (schema : Schema) (query : Query) (combination : Combination) :
    (∃ e, (compile schema query combination).result = .error e) ↔
      ∃ entry ∈ query, schema.Knows entry.path ∧ ∃ e, schema.Rejects entry e := by
  simp only [compile_result, except_map_error_iff, SchemaOf.readQuery, map_m_fails_iff, List.mem_filter,
    SchemaOf.is_known_iff, SchemaOf.read_entry_error_iff, and_assoc]

theorem error_regardless (schema : Schema) (query : Query) (combination other : Combination) (e : Error) :
    (compile schema query combination).result = .error e ↔ (compile schema query other).result = .error e := by
  simp only [compile_error_iff]

theorem error_sorts (schema : Schema) (query : Query) (combination : Combination) (e : Error)
    (failed : (compile schema query combination).result = .error e) :
    (∃ entry ∈ query, schema.resolve entry.path = .error e) ∨ Token.IsFault e := by
  obtain ⟨earlier, entry, later, rfl, _, _, rejected⟩ := (compile_error_iff _ _ _ _).mp failed
  cases rejected with
  | path unresolved => exact .inl ⟨entry, by simp, unresolved⟩
  | token resolved split passed unread => exact .inr (Token.read_error _ _ _ unread)

theorem unresolved_beyond_first (schema : Schema) (query : Query) (combination : Combination)
    (root path segment : String)
    (failed : (compile schema query combination).result = .error (.unresolvedPath root path segment)) :
    root = schema.path ∧ ∃ entry ∈ query, entry.path = path ∧
      ∃ before after inner, before ≠ [] ∧ Path.segments path = before ++ segment :: after ∧
        Path.reach? schema before = some inner ∧ inner.field? segment = none := by
  obtain ⟨earlier, entry, later, rfl, _, known, rejected⟩ := (compile_error_iff _ _ _ _).mp failed
  have unresolved : schema.resolve entry.path = .error (.unresolvedPath root path segment) := by
    cases rejected with
    | path failed => exact failed
    | token _ _ _ failed => exact (Token.read_error _ _ _ failed).elim
  obtain ⟨rfl, rfl, before, after, inner, split, reached, missing⟩ :=
    resolve_unresolved schema entry.path root path segment unresolved
  refine ⟨rfl, entry, by simp, rfl, before, after, inner, ?_, split, reached, missing⟩
  intro first
  subst first
  cases reached
  rw [Path.segments_cons] at split
  obtain ⟨rfl, _⟩ := List.cons.inj split
  rw [SchemaOf.knows_iff, missing] at known
  cases known

-- A query is invalid just if some entry for a field of the schema has a path that leads nowhere or a
-- token that is none, and the first such entry gives the error. Tokens are none for their form alone,
-- whatever they ask.
theorem compile_rejection (schema : Schema) (query : Query) (combination : Combination) :
    ((∃ e, (compile schema query combination).result = .error e) ↔
      ∃ entry ∈ query, schema.Knows entry.path ∧
        ((∃ e, schema.resolve entry.path = .error e) ∨
          ∃ route, schema.resolve entry.path = .ok route ∧
            ∃ text ∈ entry.tokens, ∃ e, Token.read (.ofKind route.kind.leaf) text = .error e)) ∧
    (∀ e, (compile schema query combination).result = .error e ↔
      ∃ before entry after, query = before ++ entry :: after ∧
        (∀ earlier ∈ before, schema.Knows earlier.path → ∀ other, ¬ schema.Rejects earlier other) ∧
        schema.Knows entry.path ∧ schema.Rejects entry e) ∧
    (∀ e, (compile schema query combination).result = .error e →
      (∃ entry ∈ query, schema.resolve entry.path = .error e) ∨ Token.IsFault e) ∧
    (∀ root path segment,
      (compile schema query combination).result = .error (.unresolvedPath root path segment) →
        root = schema.path ∧ ∃ entry ∈ query, entry.path = path ∧
          ∃ before after inner, before ≠ [] ∧ Path.segments path = before ++ segment :: after ∧
            Path.reach? schema before = some inner ∧ inner.field? segment = none) ∧
    ∀ other e, (compile schema query combination).result = .error e ↔
      (compile schema query other).result = .error e := by
  refine ⟨?_, ?_, ?_, ?_, ?_⟩
  · simp only [compile_fails_iff, SchemaOf.rejected_iff]
  · exact compile_error_iff schema query combination
  · exact error_sorts schema query combination
  · exact unresolved_beyond_first schema query combination
  · exact error_regardless schema query combination

end TokenFilter
