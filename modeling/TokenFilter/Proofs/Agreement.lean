import TokenFilter.Proofs.Meaning
import TokenFilter.Proofs.Rejection
import TokenFilter.Proofs.Spelling

set_option autoImplicit false

namespace TokenFilter

def Predicate.Equivalent (p q : Predicate) : Prop := ∀ entity, p.holds entity = q.holds entity

-- Both queries are invalid, or both ask nothing, or their predicates are alike.
inductive Agree (alike : Predicate → Predicate → Prop) :
    Except Error (Option Predicate) → Except Error (Option Predicate) → Prop where
  | invalid (e other : Error) : Agree alike (.error e) (.error other)
  | unfiltered : Agree alike (.ok none) (.ok none)
  | filtered {p q : Predicate} (same : alike p q) : Agree alike (.ok (some p)) (.ok (some q))

theorem Agree.mono {alike like : Predicate → Predicate → Prop} {x y : Except Error (Option Predicate)}
    (agree : Agree alike x y) (implies : ∀ p q, alike p q → like p q) : Agree like x y := by
  cases agree with
  | invalid e other => exact .invalid e other
  | unfiltered => exact .unfiltered
  | filtered same => exact .filtered (implies _ _ same)

theorem Agree.answers {x y : Except Error (Option Predicate)} (agree : Agree Predicate.Equivalent x y)
    (entity : Entity) :
    x.toOption.map (·.map (·.holds entity)) = y.toOption.map (·.map (·.holds entity)) := by
  cases agree with
  | invalid e other => rfl
  | unfiltered => rfl
  | filtered same => exact congrArg (fun answer => some (some answer)) (same entity)

structure Entry.Alike (entry other : Entry) : Prop where
  path : Path.SameSpelling entry.path other.path
  tokens : ∀ text, text ∈ entry.tokens ↔ text ∈ other.tokens

theorem entry_alike_refl (entry : Entry) : entry.Alike entry := ⟨rfl, fun _ => Iff.rfl⟩

theorem entry_alike_symm (entry other : Entry) (alike : entry.Alike other) : other.Alike entry :=
  ⟨alike.path.symm, fun text => (alike.tokens text).symm⟩

def Query.Covers (query other : Query) : Prop := ∀ entry ∈ query, ∃ like ∈ other, entry.Alike like

def Path.Route.Matches (entity : Entity) (route : Path.Route) (token : Token) : Prop :=
  match route.kind.item? with
  | none => token.Matches route.kind (entity.read route.slots)
  | some item =>
      ∃ items, entity.read route.slots = some (.list items) ∧ ∃ value ∈ items, token.Matches item (some value)

namespace SchemaOf

def Gives (schema : Schema) (such : Path.Route → Token → Prop) (path text : String) : Prop :=
  ∃ route token, schema.resolve path = .ok route ∧ Token.read (.ofKind route.kind.leaf) text = .ok token ∧
    token.survives route.kind.leaf = true ∧ such route token

def Refuses (schema : Schema) (path text : String) : Prop :=
  ∃ route, schema.resolve path = .ok route ∧ ∃ e, Token.read (.ofKind route.kind.leaf) text = .error e

theorem gives_something (schema : Schema) (such : Path.Route → Token → Prop) (path text : String)
    (gives : schema.Gives such path text) : schema.Gives (fun _ _ => True) path text := by
  obtain ⟨route, token, resolved, read, survives, _⟩ := gives
  exact ⟨route, token, resolved, read, survives, trivial⟩

theorem gives_spelled (schema : Schema) (such : Path.Route → Token → Prop) (path other text : String)
    (same : Path.SameSpelling path other) : schema.Gives such path text ↔ schema.Gives such other text := by
  simp only [Gives, ← to_option_some, resolve_spelled schema path other same]

theorem refuses_spelled (schema : Schema) (path other text : String) (same : Path.SameSpelling path other) :
    schema.Refuses path text ↔ schema.Refuses other text := by
  simp only [Refuses, ← to_option_some (schema.resolve _), resolve_spelled schema path other same]

theorem fails_spelled (schema : Schema) (path other : String) (same : Path.SameSpelling path other) :
    (∃ e, schema.resolve path = .error e) ↔ ∃ e, schema.resolve other = .error e := by
  have resolved := resolve_spelled schema path other same
  cases first : schema.resolve path <;> cases second : schema.resolve other <;>
    simp [first, second, Except.toOption] at resolved ⊢

theorem rejected_texts (schema : Schema) (entry : Entry) :
    (∃ e, schema.Rejects entry e) ↔
      (∃ e, schema.resolve entry.path = .error e) ∨ ∃ text ∈ entry.tokens, schema.Refuses entry.path text := by
  rw [rejected_iff]
  constructor
  · intro rejected
    rcases rejected with failed | ⟨route, resolved, text, given, unread⟩
    · exact .inl failed
    · exact .inr ⟨text, given, route, resolved, unread⟩
  · intro rejected
    rcases rejected with failed | ⟨text, given, route, resolved, unread⟩
    · exact .inl failed
    · exact .inr ⟨route, resolved, text, given, unread⟩

theorem surviving_texts (schema : Schema) (entry : Entry) (reading : Reading) (such : Path.Route → Token → Prop)
    (read : schema.readEntry entry = .ok reading) :
    (∃ token ∈ reading.surviving, such reading.route token) ↔
      ∃ text ∈ entry.tokens, schema.Gives such entry.path text := by
  obtain ⟨resolved, readTokens⟩ := (read_entry_ok_iff schema entry reading).mp read
  have each := (map_m_ok_iff _ _ _).mp readTokens
  constructor
  · intro found
    obtain ⟨token, member, here⟩ := found
    obtain ⟨inside, survives⟩ := List.mem_filter.mp member
    obtain ⟨text, given, passed⟩ := forall_mem_right each token inside
    exact ⟨text, given, reading.route, token, resolved, passed, survives, here⟩
  · intro found
    obtain ⟨text, given, route, token, led, passed, survives, here⟩ := found
    cases resolved.symm.trans led
    obtain ⟨other, inside, passedOther⟩ := forall_mem_left each text given
    cases passed.symm.trans passedOther
    exact ⟨token, List.mem_filter.mpr ⟨inside, survives⟩, here⟩

theorem reading_matches_iff (reading : Reading) (entity : Entity) :
    reading.Matches entity ↔ ∃ token ∈ reading.surviving, reading.route.Matches entity token := by
  rw [Reading.Matches]
  unfold Path.Route.Matches
  cases reading.route.kind.item? with
  | none => exact Iff.rfl
  | some item =>
      constructor
      · intro matched
        obtain ⟨items, read, value, member, token, survives, here⟩ := matched
        exact ⟨token, survives, items, read, value, member, here⟩
      · intro matched
        obtain ⟨token, survives, items, read, value, member, here⟩ := matched
        exact ⟨items, read, value, member, token, survives, here⟩

theorem contributes_iff (schema : Schema) (entry : Entry) :
    schema.contributes entry = true ↔
      (∀ e, ¬ schema.Rejects entry e) ∧ schema.Knows entry.path ∧
        ∃ text ∈ entry.tokens, schema.Gives (fun _ _ => True) entry.path text := by
  rw [not_rejected_iff, ← is_known_iff, contributes, Bool.and_eq_true]
  cases read : schema.readEntry entry with
  | error e => simp [Except.toOption]
  | ok reading =>
      rw [← surviving_texts schema entry reading _ read]
      simp [Except.toOption, List.eq_nil_iff_forall_not_mem]

theorem matches_iff (schema : Schema) (entity : Entity) (entry : Entry) :
    schema.Matches entity entry ↔
      (∀ e, ¬ schema.Rejects entry e) ∧
        ∃ text ∈ entry.tokens, schema.Gives (Path.Route.Matches entity) entry.path text := by
  rw [not_rejected_iff, Matches]
  constructor
  · intro matched
    obtain ⟨reading, read, here⟩ := matched
    have found := (reading_matches_iff reading entity).mp here
    exact ⟨⟨reading, read⟩, (surviving_texts schema entry reading _ read).mp found⟩
  · intro matched
    obtain ⟨⟨reading, read⟩, found⟩ := matched
    have here := (surviving_texts schema entry reading _ read).mpr found
    exact ⟨reading, read, (reading_matches_iff reading entity).mpr here⟩

section Alike

variable {entry other : Entry}

theorem alike_rejected (schema : Schema) (alike : entry.Alike other) :
    (∃ e, schema.Rejects entry e) ↔ ∃ e, schema.Rejects other e := by
  simp only [rejected_texts, fails_spelled schema _ _ alike.path, refuses_spelled schema _ _ _ alike.path, alike.tokens]

theorem alike_not_rejected (schema : Schema) (alike : entry.Alike other) :
    (∀ e, ¬ schema.Rejects entry e) ↔ ∀ e, ¬ schema.Rejects other e := by
  simpa using not_congr (alike_rejected schema alike)

theorem alike_contributes (schema : Schema) (alike : entry.Alike other) :
    schema.contributes entry = schema.contributes other := by
  rw [Bool.eq_iff_iff]
  simp only [contributes_iff, alike_not_rejected schema alike, knows_spelled schema _ _ alike.path,
    gives_spelled schema _ _ _ _ alike.path, alike.tokens]

theorem alike_matches (schema : Schema) (entity : Entity) (alike : entry.Alike other) :
    schema.Matches entity entry ↔ schema.Matches entity other := by
  simp only [matches_iff, alike_not_rejected schema alike, gives_spelled schema _ _ _ _ alike.path, alike.tokens]

end Alike

end SchemaOf

theorem agree_of (alike : Predicate → Predicate → Prop) (x y : Except Error (Option Predicate))
    (invalid : (∃ e, x = .error e) ↔ ∃ e, y = .error e)
    (unfiltered : ∀ first second, x = .ok first → y = .ok second → (first = none ↔ second = none))
    (filtered : ∀ p q, x = .ok (some p) → y = .ok (some q) → alike p q) : Agree alike x y := by
  cases x with
  | error e =>
      obtain ⟨other, rfl⟩ := invalid.mp ⟨e, rfl⟩
      exact .invalid e other
  | ok first =>
      cases y with
      | error e =>
          obtain ⟨other, impossible⟩ := invalid.mpr ⟨e, rfl⟩
          cases impossible
      | ok second =>
          have none := unfiltered first second rfl rfl
          cases first with
          | none =>
              obtain rfl := none.mp rfl
              exact .unfiltered
          | some p =>
              cases second with
              | none => cases none.mpr rfl
              | some q => exact .filtered (filtered p q rfl rfl)

theorem compiled_holds (schema : Schema) (query : Query) (combination : Combination) (p : Predicate) (entity : Entity)
    (compiled : (compile schema query combination).result = .ok (some p)) :
    p.holds entity = true ↔ combination.Asks (schema.Matches entity) (query.filter schema.contributes) :=
  joined_holds combination _ _ _ p ⟨entity, none⟩ (compile_shaped schema query combination p compiled)
    fun entry q => entry_holds schema entry q ⟨entity, none⟩

section Covers

variable {query other : Query} (there : query.Covers other) (back : other.Covers query) (ask : Entry → Prop)
  (same : ∀ entry like, entry.Alike like → (ask entry ↔ ask like))

include there same in
theorem some_covered (found : ∃ entry ∈ query, ask entry) : ∃ entry ∈ other, ask entry := by
  obtain ⟨entry, member, here⟩ := found
  obtain ⟨like, inside, alike⟩ := there entry member
  exact ⟨like, inside, (same entry like alike).mp here⟩

include there back same

theorem some_alike_iff : (∃ entry ∈ query, ask entry) ↔ ∃ entry ∈ other, ask entry :=
  ⟨some_covered there ask same, some_covered back ask same⟩

theorem all_alike_iff : (∀ entry ∈ query, ask entry) ↔ ∀ entry ∈ other, ask entry := by
  have exceptions := some_alike_iff there back (fun entry => ¬ ask entry)
    fun entry like alike => not_congr (same entry like alike)
  simpa using not_congr exceptions

end Covers

theorem asks_alike (schema : Schema) (entity : Entity) (combination : Combination) (query other : Query)
    (there : query.Covers other) (back : other.Covers query) :
    combination.Asks (schema.Matches entity) (query.filter schema.contributes) ↔
      combination.Asks (schema.Matches entity) (other.filter schema.contributes) := by
  cases combination with
  | and =>
      have all := all_alike_iff there back (fun entry => schema.contributes entry = true → schema.Matches entity entry)
        fun entry like alike => by
          rw [schema.alike_contributes alike, schema.alike_matches entity alike]
      simpa [Combination.Asks] using all
  | or =>
      have some := some_alike_iff there back
        (fun entry => schema.contributes entry = true ∧ schema.Matches entity entry) fun entry like alike => by
          rw [schema.alike_contributes alike, schema.alike_matches entity alike]
      simpa [Combination.Asks, and_assoc] using some

theorem compile_alike (schema : Schema) (combination : Combination) (query other : Query) (there : query.Covers other)
    (back : other.Covers query) :
    Agree Predicate.Equivalent (compile schema query combination).result (compile schema other combination).result := by
  refine agree_of _ _ _ ?_ ?_ ?_
  · rw [compile_fails_iff, compile_fails_iff]
    refine some_alike_iff there back (fun entry => schema.Knows entry.path ∧ ∃ e, schema.Rejects entry e) ?_
    intro entry like alike
    rw [schema.knows_spelled _ _ alike.path, schema.alike_rejected alike]
  · intro first second compiled compiledOther
    rw [compile_none_iff schema query combination first compiled,
      compile_none_iff schema other combination second compiledOther]
    refine all_alike_iff there back (fun entry => schema.contributes entry = false) ?_
    intro entry like alike
    rw [schema.alike_contributes alike]
  · intro p q compiled compiledOther entity
    rw [Bool.eq_iff_iff, compiled_holds schema query combination p entity compiled,
      compiled_holds schema other combination q entity compiledOther]
    exact asks_alike schema entity combination query other there back

end TokenFilter
