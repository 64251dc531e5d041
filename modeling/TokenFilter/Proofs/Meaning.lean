import TokenFilter.Predicate.Evaluation
import TokenFilter.Proofs.Comparing
import TokenFilter.Proofs.Shape

set_option autoImplicit false

namespace TokenFilter

def Kind.HasSuch (kind : Kind) (value : Option Value) (ask : Value → Prop) : Prop :=
  ∃ actual, value = some actual ∧ (kind.isNullable = true → actual.isNull = false) ∧ ask actual

def Kind.Stands (kind : Kind) (ask : Ordering → Bool) (actual : Value) (cs : List Char) : Prop :=
  ∃ literal order, kind.readLiteral cs = .ok literal ∧ kind.order? actual literal = some order ∧ ask order = true

def TextFunction.Relates (fn : TextFunction) (text argument : List Char) : Prop :=
  match fn with
  | .startsWith => argument <+: text
  | .endsWith => argument <:+ text
  | .contains => argument <:+: text
  | .equals => text = argument

-- The value may be missing, and then only negations match it.
def Token.Matches (kind : Kind) (value : Option Value) : Token → Prop
  | .not inner => ¬ inner.Matches kind value
  | .range lower upper =>
      kind.HasSuch value fun actual =>
        (∀ cs ∈ lower, kind.Stands Ordering.isGE actual cs) ∧ ∀ cs ∈ upper, kind.Stands Ordering.isLE actual cs
  | .function fn argument =>
      kind.HasSuch value fun actual =>
        ∃ s, actual = .text s ∧ fn.Relates (Text.fold s.toList) (Text.fold argument)
  | .literal cs =>
      kind.HasSuch value fun actual => ∃ literal, kind.readLiteral cs = .ok literal ∧ kind.Agrees actual literal

def Reading.Matches (reading : Reading) (entity : Entity) : Prop :=
  match reading.route.kind.item? with
  | none => ∃ token ∈ reading.surviving, token.Matches reading.route.kind (entity.read reading.route.slots)
  | some item =>
      ∃ items, entity.read reading.route.slots = some (.list items) ∧
        ∃ value ∈ items, ∃ token ∈ reading.surviving, token.Matches item (some value)

def SchemaOf.Matches (schema : Schema) (entity : Entity) (entry : Entry) : Prop :=
  ∃ reading, schema.readEntry entry = .ok reading ∧ reading.Matches entity

def Combination.Asks {α : Type} (combination : Combination) (ask : α → Prop) (as : List α) : Prop :=
  match combination with
  | .and => ∀ a ∈ as, ask a
  | .or => ∃ a ∈ as, ask a

theorem agrees_text (kind : Kind) (actual : Value) (t : String) (textual : kind.isText = true) :
    (actual.textContains .sensitive (.text t)).getD false = true ↔ kind.Agrees actual (.text t) := by
  rw [Kind.Agrees, text_non_null kind textual]
  cases actual <;> simp [Value.textContains, Value.textTest, Value.asText?, Text.contains_iff]

theorem function_relates (fn : TextFunction) (actual : Value) (argument : List Char) :
    (fn.test actual (.text (String.ofList argument))).getD false = true ↔
      ∃ s, actual = .text s ∧ fn.Relates (Text.fold s.toList) (Text.fold argument) := by
  cases actual with
  | text s =>
      cases fn <;> simp [TextFunction.test, TextFunction.Relates, Value.textStartsWith, Value.textEndsWith,
        Value.textContains, Value.textEquals, Value.textTest, Value.asText?, Text.startsWith_iff, Text.endsWith_iff,
        Text.contains_iff]
  | _ => cases fn <;> simp [TextFunction.test, Value.textStartsWith, Value.textEndsWith, Value.textContains,
      Value.textEquals, Value.textTest, Value.asText?]

theorem order_stands (kind : Kind) (ask : Ordering → Bool) (actual literal : Value) (cs : List Char)
    (read : kind.readLiteral cs = .ok literal) :
    (compareOrder (Policy.ofKind kind) actual literal).any ask = true ↔ kind.Stands ask actual cs := by
  rw [policy_order kind actual literal (read_literal_scalar kind cs literal read), Option.any_eq_true]
  constructor
  · intro passed
    obtain ⟨order, compared, asked⟩ := passed
    exact ⟨literal, order, read, compared, asked⟩
  · intro stands
    obtain ⟨other, order, readOther, compared, asked⟩ := stands
    rw [read] at readOther
    cases readOther
    exact ⟨order, compared, asked⟩

theorem guarded_holds (kind : Kind) (target : Target) (leaf : Predicate) (scope : Scope) (test : Value → Bool)
    (ask : Value → Prop) (tests : leaf.holdsIn scope = (scope.read target).any test)
    (means : ∀ actual, test actual = true ↔ ask actual) :
    (if kind.isNullable then Predicate.guarded target leaf else leaf).holdsIn scope = true ↔
      kind.HasSuch (scope.read target) ask := by
  rw [Kind.HasSuch]
  cases kind.isNullable with
  | true =>
      simp only [if_true, Predicate.holdsIn, tests]
      cases scope.read target with
      | none => simp
      | some actual => simp [means]
  | false =>
      simp only [Bool.false_eq_true, if_false, tests]
      cases scope.read target with
      | none => simp
      | some actual => simp [means]

theorem leaf_holds (kind : Kind) (target : Target) (token : Token) (leaf : Predicate) (scope : Scope)
    (shape : LeafShape kind target token leaf) :
    (if kind.isNullable then Predicate.guarded target leaf else leaf).holdsIn scope = true ↔
      token.Matches kind (scope.read target) := by
  cases shape with
  | @contains cs s textual read =>
      refine guarded_holds kind target _ scope _ _ (by rw [Predicate.holdsIn]) ?_
      intro actual
      rw [agrees_text kind actual s textual]
      simp [read]
  | function textual =>
      refine guarded_holds kind target _ scope _ _ (by rw [Predicate.holdsIn]) ?_
      intro actual
      exact function_relates _ actual _
  | @equal cs literal other read =>
      refine guarded_holds kind target _ scope _ _ (by rw [Predicate.holdsIn]) ?_
      intro actual
      have scalar := read_literal_scalar kind cs literal read
      simp [Comparison.holds, policy_agrees kind actual literal other scalar, read]
  | @atLeast lower low ranged read =>
      refine guarded_holds kind target _ scope _ _ (by rw [Predicate.holdsIn]) ?_
      intro actual
      simp [Comparison.holds, order_stands kind _ actual low lower read]
  | @atMost upper high ranged read =>
      refine guarded_holds kind target _ scope _ _ (by rw [Predicate.holdsIn]) ?_
      intro actual
      simp [Comparison.holds, order_stands kind _ actual high upper read]
  | @between lower upper low high ranged readLow readHigh =>
      refine guarded_holds kind target _ scope _ _ (by rw [Predicate.holdsIn]) ?_
      intro actual
      simp [aboveLower, belowUpper, order_stands kind _ actual low lower readLow,
        order_stands kind _ actual high upper readHigh]

theorem token_holds (kind : Kind) (target : Target) (levels : Nat) (token : Token) (p : Predicate) (scope : Scope)
    (shape : TokenShape kind target levels token p) :
    p.holdsIn scope = true ↔ token.Matches kind (scope.read target) := by
  induction shape with
  | leaf shape => exact leaf_holds kind target _ _ scope shape
  | not inner ih => rw [Predicate.holdsIn, Bool.not_eq_true', Token.Matches, ← ih, Bool.not_eq_true]

theorem joined_holds {α : Type} (combination : Combination) (shape : α → Predicate → Prop) (ask : α → Prop)
    (as : List α) (p : Predicate) (scope : Scope) (joined : Joined combination.join shape as p)
    (each : ∀ a q, shape a q → (q.holdsIn scope = true ↔ ask a)) :
    p.holdsIn scope = true ↔ combination.Asks ask as := by
  cases joined with
  | @alone a _ only =>
      have here := each a p only
      cases combination <;> simp [Combination.Asks, here]
  | @together _ ps several shaped =>
      cases combination with
      | and =>
          show (Predicate.and ps).holdsIn scope = true ↔ ∀ a ∈ as, ask a
          rw [Predicate.holdsIn, Predicate.allHold_eq, List.all_eq_true]
          constructor
          · intro hold a member
            obtain ⟨q, memberQ, here⟩ := forall_mem_left shaped a member
            exact (each a q here).mp (hold q memberQ)
          · intro asked q member
            obtain ⟨a, memberA, here⟩ := forall_mem_right shaped q member
            exact (each a q here).mpr (asked a memberA)
      | or =>
          show (Predicate.or ps).holdsIn scope = true ↔ ∃ a ∈ as, ask a
          rw [Predicate.holdsIn, Predicate.someHolds_eq, List.any_eq_true]
          constructor
          · intro somePart
            obtain ⟨q, member, holds⟩ := somePart
            obtain ⟨a, memberA, here⟩ := forall_mem_right shaped q member
            exact ⟨a, memberA, (each a q here).mp holds⟩
          · intro someAsked
            obtain ⟨a, member, asked⟩ := someAsked
            obtain ⟨q, memberQ, here⟩ := forall_mem_left shaped a member
            exact ⟨q, memberQ, (each a q here).mpr asked⟩

theorem alternatives_hold (kind : Kind) (target : Target) (tokens : List Token) (p : Predicate) (scope : Scope)
    (shape : Alternatives kind target tokens p) :
    p.holdsIn scope = true ↔ ∃ token ∈ tokens, token.Matches kind (scope.read target) := by
  refine joined_holds .or _ _ tokens p scope shape ?_
  intro token q shaped
  obtain ⟨levels, _, tokenShape⟩ := shaped
  exact token_holds kind target levels token q scope tokenShape

theorem some_item_holds (ref : FieldRef) (inner : Predicate) (scope : Scope) (ask : Value → Prop)
    (means : ∀ value, inner.holdsIn ⟨scope.entity, some value⟩ = true ↔ ask value) :
    (Predicate.exists (.field ref) inner).holdsIn scope = true ↔
      ∃ items, scope.entity.read ref.slots = some (.list items) ∧ ∃ value ∈ items, ask value := by
  rw [Predicate.holdsIn, Option.any_eq_true]
  constructor
  · intro holds
    obtain ⟨collection, read, found⟩ := holds
    obtain ⟨value, member, here⟩ := List.any_eq_true.mp found
    cases collection with
    | list items => exact ⟨items, read, value, member, (means value).mp here⟩
    | _ => cases member
  · intro found
    obtain ⟨items, read, value, member, asked⟩ := found
    exact ⟨.list items, read, List.any_eq_true.mpr ⟨value, member, (means value).mpr asked⟩⟩

theorem reading_holds (reading : Reading) (p : Predicate) (scope : Scope) (shape : ReadingShape reading p) :
    p.holdsIn scope = true ↔ reading.Matches scope.entity := by
  rw [Reading.Matches]
  cases shape with
  | scalar plain tokens =>
      rw [plain]
      exact alternatives_hold _ _ _ p scope tokens
  | @collection item inner items tokens =>
      rw [items]
      refine some_item_holds _ inner scope _ ?_
      intro value
      exact alternatives_hold item .item _ inner ⟨scope.entity, some value⟩ tokens

theorem entry_holds (schema : Schema) (entry : Entry) (p : Predicate) (scope : Scope)
    (shape : schema.EntryShape entry p) : p.holdsIn scope = true ↔ schema.Matches scope.entity entry := by
  obtain ⟨reading, read, shaped⟩ := shape
  rw [reading_holds reading p scope shaped]
  constructor
  · intro here
    exact ⟨reading, read, here⟩
  · intro matched
    obtain ⟨other, readOther, here⟩ := matched
    rw [read] at readOther
    cases readOther
    exact here

theorem compile_none_iff (schema : Schema) (query : Query) (combination : Combination) (result : Option Predicate)
    (compiled : (compile schema query combination).result = .ok result) :
    result = none ↔ ∀ entry ∈ query, schema.contributes entry = false := by
  obtain ⟨parts, rfl, each⟩ := compile_parts schema query combination result compiled
  rw [Predicate.fold_eq_none_iff, ← List.length_eq_zero_iff, ← each.length_eq, List.length_eq_zero_iff,
    List.filter_eq_nil_iff]
  simp

-- What was compiled asks of every entity what the contributing entries ask of it, all of them or one.
theorem compile_meaning (schema : Schema) (query : Query) (combination : Combination) (result : Option Predicate)
    (compiled : (compile schema query combination).result = .ok result) :
    (result = none ↔ ∀ entry ∈ query, schema.contributes entry = false) ∧
      ∀ p, result = some p → ∀ entity, p.holds entity = true ↔
        combination.Asks (schema.Matches entity) (query.filter schema.contributes) := by
  refine ⟨compile_none_iff schema query combination result compiled, ?_⟩
  intro p eq entity
  subst eq
  have shape := compile_shaped schema query combination p compiled
  exact joined_holds combination _ _ _ p ⟨entity, none⟩ shape fun entry q => entry_holds schema entry q ⟨entity, none⟩

theorem compile_meaning_of_people :
    let schema : Schema := ⟨"people", "Person",
      [⟨"Name", .text⟩, ⟨"Age", .nullable .int⟩, ⟨"Seen", .dateTime⟩, ⟨"Tags", .list .text⟩]⟩
    let query : Query := [⟨"name", ["Ann"]⟩, ⟨"age", ["not(18&30)", "old"]⟩, ⟨"seen", ["2024-01-02"]⟩,
      ⟨"tags", ["red", "bl"]⟩, ⟨"size", ["1"]⟩]
    let day : Calendar.Date := ⟨2024, 1, 2, by decide, by decide, by decide, by decide, by decide, by decide⟩
    let noon : Calendar.Time := ⟨43200, 0, by decide, by decide⟩
    let name : Target := .field ⟨"Name", [0]⟩
    let age : Target := .field ⟨"Age", [1]⟩
    let seen : Target := .field ⟨"Seen", [2]⟩
    let tags : Target := .field ⟨"Tags", [3]⟩
    let p : Predicate := .and
      [.contains name (.text "Ann"),
        .not (.guarded age (.range age (some (.int 18)) (some (.int 30)) .numericWiden)),
        .compare seen .eq (.dateTime ⟨day, .midnight⟩) .dateTruncate,
        .exists tags (.or [.contains .item (.text "red"), .contains .item (.text "bl")])]
    let person (years : Value) : Entity := fun slot =>
      [.text "Mary Ann", years, .dateTime ⟨day, noon⟩, .list [.text "green", .text "blue"]][slot]?
    (compile schema query .and).result = .ok (some p) ∧
      Combination.and.Asks (schema.Matches (person (.int 45))) (query.filter schema.contributes) ∧
      ¬ Combination.and.Asks (schema.Matches (person (.int 20))) (query.filter schema.contributes) := by
  intro schema query day noon name age seen tags p person
  have meaning := (compile_meaning schema query .and (some p) rfl).2 p rfl
  have refused : p.holds (person (.int 20)) = false := by decide +kernel
  refine ⟨rfl, (meaning _).mp (by decide +kernel), ?_⟩
  rw [← meaning, refused]
  exact Bool.false_ne_true

end TokenFilter
