import TokenFilter.Proofs.Rejection

set_option autoImplicit false

namespace TokenFilter

def Kind.idles (kind : Kind) (text : String) : Bool :=
  (Token.read (.ofKind kind) text).toOption.any fun token => !token.survives kind

namespace SchemaOf

-- The entry with the tokens that ask something of its field, or are none. An entry whose path leads nowhere
-- stays as it is.
def cleaned? (schema : Schema) (entry : Entry) : Option Entry :=
  match schema.resolve entry.path with
  | .error _ => some entry
  | .ok route =>
    match entry.tokens.filter fun text => !route.kind.leaf.idles text with
    | [] => none
    | tokens => some ⟨entry.path, tokens⟩

def clean (schema : Schema) (query : Query) : Query := (query.filter schema.isKnown).filterMap schema.cleaned?

def IsClean (schema : Schema) (query : Query) : Prop :=
  ∀ entry ∈ query, schema.Knows entry.path ∧ ∀ route, schema.resolve entry.path = .ok route →
    entry.tokens ≠ [] ∧ ∀ text ∈ entry.tokens, ∀ token, Token.read (.ofKind route.kind.leaf) text = .ok token →
      token.survives route.kind.leaf = true

end SchemaOf

theorem idles_predicate (kind : Kind) (target : Target) (text : String) (idle : kind.idles text = true) :
    (Token.read (.ofKind kind) text).map (Token.predicate? kind target) = .ok none := by
  unfold Kind.idles at idle
  cases read : Token.read (.ofKind kind) text with
  | error e => simp [read, Except.toOption] at idle
  | ok token =>
      have dropped : (token.predicate? kind target).isSome = false := by
        simpa [read, Except.toOption, predicate_is_some] using idle
      simpa [Except.map] using dropped

theorem alternatives_cleaned (kind : Kind) (target : Target) (texts : List String) :
    ((texts.filter fun text => !kind.idles text).mapM (Token.read (.ofKind kind))).map (alternatives? kind target) =
      (texts.mapM (Token.read (.ofKind kind))).map (alternatives? kind target) := by
  have tidied := map_m_tidied (Token.read (.ofKind kind)) (Token.predicate? kind target)
    (Option.guard fun text => !kind.idles text) ?gone ?kept texts
  · rw [List.filterMap_eq_filter] at tidied
    have folded := congrArg (Except.map Predicate.foldOr) tidied
    rwa [except_map_map, except_map_map] at folded
  case gone =>
    intro text dropped
    exact idles_predicate kind target text (by simpa using dropped)
  case kept =>
    intro text other same
    obtain ⟨rfl, _⟩ := Option.guard_eq_some_iff.mp same
    rfl

namespace SchemaOf

theorem read_entry_cleaned (schema : Schema) (entry : Entry) (route : Path.Route)
    (resolved : schema.resolve entry.path = .ok route) :
    (schema.readEntry ⟨entry.path, entry.tokens.filter fun text => !route.kind.leaf.idles text⟩).map
      Reading.predicate? = (schema.readEntry entry).map Reading.predicate? := by
  unfold readEntry
  simp only [resolved, Except.bind, except_map_map]
  cases collection : route.kind.item? with
  | none =>
      have leaf := route.kind.leaf_plain collection
      have built : ∀ tokens, Reading.predicate? ⟨route, tokens⟩ =
          alternatives? route.kind (.field route.ref) tokens := by
        intro tokens
        simp [Reading.predicate?, collection]
      simp only [built, leaf]
      exact alternatives_cleaned route.kind (.field route.ref) entry.tokens
  | some item =>
      have leaf := route.kind.leaf_item item collection
      have built : ∀ tokens, Reading.predicate? ⟨route, tokens⟩ =
          (alternatives? item .item tokens).map (.exists (.field route.ref)) := by
        intro tokens
        simp [Reading.predicate?, collection]
      simp only [built, leaf]
      have same := congrArg (Except.map (Option.map (Predicate.exists (.field route.ref))))
        (alternatives_cleaned item .item entry.tokens)
      rwa [except_map_map, except_map_map] at same

theorem cleaned_some (schema : Schema) (entry other : Entry) (left : schema.cleaned? entry = some other) :
    other = entry ∧ (∃ e, schema.resolve entry.path = .error e) ∨
      ∃ route, schema.resolve entry.path = .ok route ∧
        other = ⟨entry.path, entry.tokens.filter fun text => !route.kind.leaf.idles text⟩ ∧ other.tokens ≠ [] := by
  unfold cleaned? at left
  cases resolved : schema.resolve entry.path with
  | error e =>
      simp only [resolved, Option.some.injEq] at left
      exact .inl ⟨left.symm, e, rfl⟩
  | ok route =>
      simp only [resolved] at left
      split at left
      · cases left
      · rename_i some
        cases left
        exact .inr ⟨route, rfl, rfl, some⟩

theorem cleaned_none (schema : Schema) (entry : Entry) (gone : schema.cleaned? entry = none) :
    ∃ route, schema.resolve entry.path = .ok route ∧
      (entry.tokens.filter fun text => !route.kind.leaf.idles text) = [] := by
  unfold cleaned? at gone
  cases resolved : schema.resolve entry.path with
  | error e => simp [resolved] at gone
  | ok route =>
      simp only [resolved] at gone
      split at gone
      · rename_i empty
        exact ⟨route, rfl, empty⟩
      · cases gone

theorem cleaned_path (schema : Schema) (entry other : Entry) (left : schema.cleaned? entry = some other) :
    other.path = entry.path := by
  rcases cleaned_some schema entry other left with ⟨rfl, _⟩ | ⟨route, _, rfl, _⟩ <;> rfl

theorem mem_clean (schema : Schema) (query : Query) (other : Entry) (member : other ∈ schema.clean query) :
    ∃ entry ∈ query, schema.isKnown entry = true ∧ schema.cleaned? entry = some other := by
  obtain ⟨entry, kept, left⟩ := List.mem_filterMap.mp member
  obtain ⟨inside, known⟩ := List.mem_filter.mp kept
  exact ⟨entry, inside, known, left⟩

theorem clean_known (schema : Schema) (query : Query) (other : Entry) (member : other ∈ schema.clean query) :
    schema.isKnown other = true := by
  obtain ⟨entry, _, known, left⟩ := mem_clean schema query other member
  rw [isKnown, cleaned_path schema entry other left]
  exact known

theorem clean_is_clean (schema : Schema) (query : Query) : schema.IsClean (schema.clean query) := by
  intro other member
  refine ⟨(is_known_iff schema other).mp (clean_known schema query other member), ?_⟩
  intro route resolved
  obtain ⟨entry, _, _, left⟩ := mem_clean schema query other member
  rw [cleaned_path schema entry other left] at resolved
  rcases cleaned_some schema entry other left with ⟨_, e, failed⟩ | ⟨route', resolved', rfl, several⟩
  · cases failed.symm.trans resolved
  · obtain rfl := Except.ok.inj (resolved'.symm.trans resolved)
    refine ⟨several, ?_⟩
    intro text given token read
    obtain ⟨_, busy⟩ := List.mem_filter.mp given
    simpa [Kind.idles, read, Except.toOption] using busy

theorem read_query_clean (schema : Schema) (query : Query) :
    (schema.readQuery (schema.clean query)).map (List.filterMap Reading.predicate?) =
      (schema.readQuery query).map (List.filterMap Reading.predicate?) := by
  have allKnown : (schema.clean query).filter schema.isKnown = schema.clean query :=
    List.filter_eq_self.mpr (clean_known schema query)
  rw [readQuery, readQuery, allKnown, clean]
  refine map_m_tidied schema.readEntry Reading.predicate? schema.cleaned? ?_ ?_ (query.filter schema.isKnown)
  · intro entry gone
    obtain ⟨route, resolved, empty⟩ := cleaned_none schema entry gone
    have nothing : Reading.predicate? ⟨route, []⟩ = none := by
      unfold Reading.predicate?
      cases route.kind.item? <;> rfl
    rw [← read_entry_cleaned schema entry route resolved, empty, readEntry, resolved]
    exact congrArg Except.ok nothing
  · intro entry other left
    rcases cleaned_some schema entry other left with ⟨rfl, _⟩ | ⟨route, resolved, rfl, _⟩
    · rfl
    · exact read_entry_cleaned schema entry route resolved

end SchemaOf

-- Rid of what asks nothing, a query compiles to the same.
theorem compile_clean (schema : Schema) (query : Query) (combination : Combination) :
    schema.IsClean (schema.clean query) ∧
      (compile schema (schema.clean query) combination).result = (compile schema query combination).result := by
  refine ⟨schema.clean_is_clean query, ?_⟩
  have same := congrArg (Except.map combination.fold) (schema.read_query_clean query)
  rw [except_map_map, except_map_map] at same
  rw [compile_result, compile_result]
  exact same

example :
    let schema : Schema := ⟨"people", "Person", [⟨"Age", .nullable .int⟩, ⟨"Tags", .list .text⟩]⟩
    let query : Query :=
      [⟨"age", ["old", "not(18&x)", "30"]⟩, ⟨"size", ["1"]⟩, ⟨"tags", []⟩, ⟨"age.years", ["x"]⟩]
    schema.clean query = [⟨"age", ["30"]⟩, ⟨"age.years", ["x"]⟩] := rfl

end TokenFilter
