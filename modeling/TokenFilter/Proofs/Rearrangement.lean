import TokenFilter.Proofs.Agreement

set_option autoImplicit false

namespace TokenFilter

structure Entry.Rearranges (entry other : Entry) : Prop where
  path : entry.path = other.path
  tokens : entry.tokens.Perm other.tokens

def Query.Rearranges (query other : Query) : Prop :=
  ∃ middle, query.Perm middle ∧ List.Forall₂ Entry.Rearranges middle other

inductive Query.Repeats : Query → Query → Prop where
  | again (before after : Query) (path text : String) (front back : List String) (given : text ∈ front ++ back) :
      Query.Repeats (before ++ ⟨path, front ++ back⟩ :: after) (before ++ ⟨path, front ++ text :: back⟩ :: after)

theorem entry_rearranged (entry other : Entry) (rearranged : entry.Rearranges other) : entry.Alike other := by
  refine ⟨?_, fun text => rearranged.tokens.mem_iff⟩
  rw [rearranged.path]
  exact rfl

theorem rearranged_covers (query other : Query) (rearranged : query.Rearranges other) :
    query.Covers other ∧ other.Covers query := by
  obtain ⟨middle, permuted, each⟩ := rearranged
  constructor
  · intro entry member
    obtain ⟨like, inside, moved⟩ := forall_mem_left each entry (permuted.mem_iff.mp member)
    exact ⟨like, inside, entry_rearranged entry like moved⟩
  · intro entry member
    obtain ⟨like, inside, moved⟩ := forall_mem_right each entry member
    exact ⟨like, permuted.mem_iff.mpr inside, entry_alike_symm like entry (entry_rearranged like entry moved)⟩

theorem tokens_covered (path : String) (tokens more : List String) (before after : Query)
    (same : ∀ text, text ∈ tokens ↔ text ∈ more) :
    Query.Covers (before ++ ⟨path, tokens⟩ :: after) (before ++ ⟨path, more⟩ :: after) := by
  intro entry member
  rcases List.mem_append.mp member with early | here
  · exact ⟨entry, by simp [early], entry_alike_refl entry⟩
  · rcases List.mem_cons.mp here with rfl | late
    · exact ⟨⟨path, more⟩, by simp, rfl, same⟩
    · exact ⟨entry, by simp [late], entry_alike_refl entry⟩

theorem repeated_covers (query other : Query) (repeated : query.Repeats other) :
    query.Covers other ∧ other.Covers query := by
  cases repeated with
  | again before after path text front back given =>
      have same : ∀ word, word ∈ front ++ back ↔ word ∈ front ++ text :: back := by
        intro word
        have listed : word = text → word ∈ front ++ back := by
          intro eq
          rw [eq]
          exact given
        simp only [List.mem_append, List.mem_cons] at listed ⊢
        tauto
      constructor
      · exact tokens_covered path _ _ before after same
      · exact tokens_covered path _ _ before after fun word => (same word).symm

-- A token that stands already further to the front fails first, if it fails.
theorem repeated_read_error (schema : Schema) (path text : String) (front back : List String) (given : text ∈ front)
    (e : Error) :
    schema.readEntry ⟨path, front ++ back⟩ = .error e ↔ schema.readEntry ⟨path, front ++ text :: back⟩ = .error e := by
  unfold SchemaOf.readEntry
  cases schema.resolve path with
  | error failure => exact Iff.rfl
  | ok route =>
      simp only [Except.bind, except_map_error_iff, map_m_append_error_iff, map_m_cons_error_iff]
      refine or_congr_right (and_congr_right ?_)
      intro passed
      have fine : ∀ other, Token.read (.ofKind route.kind.leaf) text ≠ .error other := by
        intro other failed
        obtain ⟨first, impossible⟩ := (map_m_fails_iff _ front).mpr ⟨text, given, other, failed⟩
        exact passed first impossible
      simp [fine]

theorem repeated_error (schema : Schema) (combination : Combination) (before after : Query) (path text : String)
    (front back : List String) (given : text ∈ front) (e : Error) :
    (compile schema (before ++ ⟨path, front ++ back⟩ :: after) combination).result = .error e ↔
      (compile schema (before ++ ⟨path, front ++ text :: back⟩ :: after) combination).result = .error e := by
  have read := repeated_read_error schema path text front back given
  simp only [compile_result, except_map_error_iff, SchemaOf.readQuery, List.filter_append, List.filter_cons]
  have known : schema.isKnown ⟨path, front ++ text :: back⟩ = schema.isKnown ⟨path, front ++ back⟩ := rfl
  rw [known]
  cases schema.isKnown ⟨path, front ++ back⟩ with
  | false => exact Iff.rfl
  | true => simp only [if_true, map_m_append_error_iff, map_m_cons_error_iff, read, ne_eq]

-- Entries and tokens may be put in another order, and a token may be given again, and the query is invalid
-- or asks nothing just as it did, or else asks the same. A token that is given again further to the back
-- does not change the error either.
theorem compile_rearranged (schema : Schema) (query : Query) (combination : Combination) :
    (∀ other, query.Rearranges other →
      Agree Predicate.Equivalent (compile schema query combination).result (compile schema other combination).result) ∧
    (∀ other, query.Repeats other →
      Agree Predicate.Equivalent (compile schema query combination).result (compile schema other combination).result) ∧
    ∀ before path front back after text, query = before ++ ⟨path, front ++ back⟩ :: after → text ∈ front →
      ∀ e, (compile schema query combination).result = .error e ↔
        (compile schema (before ++ ⟨path, front ++ text :: back⟩ :: after) combination).result = .error e := by
  refine ⟨?_, ?_, ?_⟩
  · intro other rearranged
    obtain ⟨there, back⟩ := rearranged_covers query other rearranged
    exact compile_alike schema combination query other there back
  · intro other repeated
    obtain ⟨there, back⟩ := repeated_covers query other repeated
    exact compile_alike schema combination query other there back
  · intro before path front back after text split given e
    rw [split]
    exact repeated_error schema combination before after path text front back given e

theorem compile_rearranged_of_people :
    let schema : Schema := ⟨"people", "Person", [⟨"Age", .nullable .int⟩, ⟨"Tags", .list .text⟩]⟩
    let query : Query := [⟨"age", ["old", "not(18&)", "30"]⟩, ⟨"tags", ["a"]⟩]
    let other : Query := [⟨"tags", ["a"]⟩, ⟨"age", ["30", "old", "not(18&)"]⟩]
    let again : Query := [⟨"age", ["30", "old", "not(18&)", "30"]⟩, ⟨"tags", ["a"]⟩]
    query.Rearranges other ∧ query.Repeats again ∧
      Agree Predicate.Equivalent (compile schema query .and).result (compile schema other .and).result ∧
      Agree Predicate.Equivalent (compile schema query .and).result (compile schema again .and).result ∧
      (compile schema [⟨"age", ["30", "1&2&3", "30"]⟩] .and).result = .error (.rangeArity "1&2&3" 3) := by
  intro schema query other again
  have rearranged : query.Rearranges other := by
    refine ⟨[⟨"tags", ["a"]⟩, ⟨"age", ["old", "not(18&)", "30"]⟩], by decide, ?_⟩
    exact .cons ⟨rfl, by decide⟩ (.cons ⟨rfl, by decide⟩ .nil)
  have repeated : query.Repeats again := .again [] [⟨"tags", ["a"]⟩] "age" "30" [] ["old", "not(18&)", "30"] (by simp)
  obtain ⟨moved, repeats, _⟩ := compile_rearranged schema query .and
  refine ⟨rearranged, repeated, moved other rearranged, repeats again repeated, ?_⟩
  obtain ⟨_, _, errors⟩ := compile_rearranged schema [⟨"age", ["30", "1&2&3"]⟩] .and
  exact (errors [] "age" ["30", "1&2&3"] [] [] "30" rfl (by simp) _).mp rfl

end TokenFilter
