import TokenFilter.Proofs.Checks
import TokenFilter.Proofs.Comparing
import TokenFilter.Proofs.Conformance
import TokenFilter.Proofs.Shape

set_option autoImplicit false

namespace TokenFilter

def Check.Sound (check : Check) : Prop :=
  check.actual.isNull = false ∧ (check.answer?.isSome = true ∨ check.actual.IsNan ∨ check.literal.IsNan)

-- The route leads to a value of its kind, or breaks off at a nullable record that is null.
def SchemaOf.Answers (schema : Schema) (entity : Entity) (route : Path.Route) : Prop :=
  (∃ value, entity.read route.slots = some value ∧ Conforms route.kind value) ∨
    entity.read route.slots = none ∧ schema.NullOnTheWay entity route.slots

theorem scalar_not_null (kind : Kind) (value : Value) (scalar : ScalarOf kind value) : value.isNull = false := by
  cases scalar <;> rfl

theorem conforms_scalar (kind : Kind) (literal actual : Value) (scalar : ScalarOf kind literal)
    (conforms : Conforms kind actual) : ScalarOf kind actual := by
  cases conforms with
  | scalar one => exact one
  | _ => cases scalar

theorem non_null_plain (kind : Kind) (plain : kind.isNullable = false) : kind.nonNull = kind := by
  cases kind with
  | nullable inner => cases plain
  | _ => rfl

theorem text_scalar (kind : Kind) (actual : Value) (textual : kind.isText = true)
    (conforms : Conforms kind.nonNull actual) : ∃ s, actual = .text s := by
  rw [text_non_null kind textual] at conforms
  cases conforms with
  | scalar one =>
      cases one
      exact ⟨_, rfl⟩

theorem function_answers (fn : TextFunction) (s t : String) : (fn.test (.text s) (.text t)).isSome = true := by
  cases fn <;> rfl

section Leaves

variable {kind : Kind} {target : Target} {scope : Scope}

theorem checks_sound (test : Check.Test) (literal : Value)
    (sound : ∀ actual, scope.read target = some actual → Check.Sound ⟨test, actual, literal⟩) :
    ∀ check ∈ scope.checks target test literal, check.Sound := by
  intro check made
  obtain ⟨actual, read, rfl⟩ := List.mem_map.mp made
  exact sound actual (Option.mem_toList.mp read)

theorem bound_sound (cs : List Char) (literal actual : Value) (comparison : Comparison) (ranged : kind.isRanged = true)
    (read : kind.readLiteral cs = .ok literal) (conforms : Conforms kind.nonNull actual) :
    Check.Sound ⟨.compare comparison (Policy.ofKind kind), actual, literal⟩ := by
  have scalar := read_literal_scalar kind cs literal read
  have typed := conforms_scalar kind.nonNull literal actual scalar conforms
  refine ⟨scalar_not_null _ actual typed, ?_⟩
  cases comparison with
  | eq => exact eq_comparable kind actual literal typed scalar
  | gte => simpa [Check.answer?] using order_comparable kind actual literal ranged typed scalar
  | lte => simpa [Check.answer?] using order_comparable kind actual literal ranged typed scalar

theorem leaf_sound (token : Token) (leaf : Predicate) (shape : LeafShape kind target token leaf)
    (typed : ∀ actual, scope.read target = some actual → Conforms kind.nonNull actual) :
    ∀ check ∈ leaf.checks scope, check.Sound := by
  cases shape with
  | @contains cs t textual read =>
      refine checks_sound .contains (.text t) ?_
      intro actual here
      obtain ⟨s, rfl⟩ := text_scalar kind actual textual (typed actual here)
      exact ⟨rfl, .inl rfl⟩
  | @function fn argument textual =>
      refine checks_sound (.function fn) _ ?_
      intro actual here
      obtain ⟨s, rfl⟩ := text_scalar kind actual textual (typed actual here)
      exact ⟨rfl, .inl (function_answers fn s _)⟩
  | @equal cs literal other read =>
      refine checks_sound _ literal ?_
      intro actual here
      have scalar := read_literal_scalar kind cs literal read
      have one := conforms_scalar kind.nonNull literal actual scalar (typed actual here)
      exact ⟨scalar_not_null _ actual one, eq_comparable kind actual literal one scalar⟩
  | @atLeast lower low ranged read =>
      refine checks_sound _ low ?_
      intro actual here
      exact bound_sound lower low actual .gte ranged read (typed actual here)
  | @atMost upper high ranged read =>
      refine checks_sound _ high ?_
      intro actual here
      exact bound_sound upper high actual .lte ranged read (typed actual here)
  | @between lower upper low high ranged readLow readHigh =>
      intro check made
      rw [Predicate.checks] at made
      obtain ⟨actual, here, both⟩ := List.mem_flatMap.mp made
      have conforms := typed actual (Option.mem_toList.mp here)
      rcases List.mem_append.mp both with first | second
      · obtain ⟨bound, isLow, rfl⟩ := List.mem_map.mp first
        cases Option.mem_toList.mp isLow
        exact bound_sound lower low actual .gte ranged readLow conforms
      · obtain ⟨bound, isHigh, rfl⟩ := List.mem_map.mp second
        cases Option.mem_toList.mp isHigh
        exact bound_sound upper high actual .lte ranged readHigh conforms

-- Behind a guard a value of a nullable kind is one of the kind without its wrappers.
theorem token_sound (levels : Nat) (token : Token) (p : Predicate) (shape : TokenShape kind target levels token p)
    (typed : ∀ actual, scope.read target = some actual → Conforms kind actual) :
    ∀ check ∈ p.checks scope, check.Sound := by
  induction shape with
  | @leaf token leaf shape =>
      intro check made
      cases nullable : kind.isNullable with
      | false =>
          rw [nullable] at made
          exact leaf_sound token leaf shape (by rwa [non_null_plain kind nullable]) check made
      | true =>
          rw [nullable, if_pos rfl, Predicate.checks] at made
          split at made
          · rename_i guard
            refine leaf_sound token leaf shape ?_ check made
            intro actual here
            rw [here] at guard
            exact conforms_non_null kind actual (typed actual here) (by simpa using guard)
          · cases made
  | not inner ih => exact ih

end Leaves

theorem mem_all_checks (scope : Scope) (parts : List Predicate) (check : Check) :
    check ∈ Predicate.allChecks scope parts ↔ ∃ part ∈ parts, check ∈ part.checks scope := by
  induction parts with
  | nil => simp [Predicate.allChecks]
  | cons part rest ih => simp [Predicate.allChecks, ih]

theorem join_checks (combination : Combination) (scope : Scope) (parts : List Predicate) :
    (combination.join parts).checks scope = Predicate.allChecks scope parts := by
  cases combination <;> rfl

theorem joined_sound {α : Type} (combination : Combination) (shape : α → Predicate → Prop) (as : List α)
    (p : Predicate) (scope : Scope) (joined : Joined combination.join shape as p)
    (each : ∀ a q, shape a q → ∀ check ∈ q.checks scope, check.Sound) : ∀ check ∈ p.checks scope, check.Sound := by
  refine joined_parts (fun q => ∀ check ∈ q.checks scope, check.Sound) _ joined (fun a _ q => each a q)
    (fun q here => here) ?_
  intro parts _ sound check made
  rw [join_checks] at made
  obtain ⟨q, member, here⟩ := (mem_all_checks scope parts check).mp made
  exact sound q member check here

theorem alternatives_sound (kind : Kind) (target : Target) (tokens : List Token) (p : Predicate) (scope : Scope)
    (shape : Alternatives kind target tokens p)
    (typed : ∀ actual, scope.read target = some actual → Conforms kind actual) :
    ∀ check ∈ p.checks scope, check.Sound := by
  refine joined_sound .or _ tokens p scope shape ?_
  intro token q shaped
  obtain ⟨levels, _, tokenShape⟩ := shaped
  exact token_sound levels token q tokenShape typed

theorem resolve_answers (schema : Schema) (entity : Entity) (path : String) (route : Path.Route)
    (admits : schema.Admits entity) (resolved : schema.resolve path = .ok route) : schema.Answers entity route :=
  read_conforming schema entity route.slots route.kind admits (resolve_kind_at schema path route resolved)

theorem read_resolved (schema : Schema) (entity : Entity) (route : Path.Route) (answers : schema.Answers entity route)
    (value : Value) (read : entity.read route.slots = some value) : Conforms route.kind value := by
  rcases answers with ⟨other, readOther, conforms⟩ | ⟨unread, _⟩
  · rw [read] at readOther
    cases readOther
    exact conforms
  · rw [read] at unread
    cases unread

theorem entry_sound (schema : Schema) (entity : Entity) (entry : Entry) (p : Predicate)
    (admits : schema.Admits entity) (shape : schema.EntryShape entry p) :
    ∀ check ∈ p.checks ⟨entity, none⟩, check.Sound := by
  obtain ⟨reading, read, shaped⟩ := shape
  obtain ⟨resolved, _⟩ := (read_entry_ok_iff schema entry reading).mp read
  have answers := resolve_answers schema entity entry.path reading.route admits resolved
  cases shaped with
  | scalar plain tokens =>
      refine alternatives_sound _ _ _ p ⟨entity, none⟩ tokens ?_
      intro actual here
      exact read_resolved schema entity reading.route answers actual here
  | @collection item inner items tokens =>
      intro check made
      rw [Predicate.checks] at made
      obtain ⟨collection, here, found⟩ := List.mem_flatMap.mp made
      obtain ⟨value, member, inside⟩ := List.mem_flatMap.mp found
      have conforms := read_resolved schema entity reading.route answers collection (Option.mem_toList.mp here)
      refine alternatives_sound item .item _ inner ⟨entity, some value⟩ tokens ?_ check inside
      intro actual bound
      cases bound
      exact conforms_items reading.route.kind item collection items conforms value member

theorem mem_all_mentions (parts : List Predicate) (ref : FieldRef) :
    ref ∈ Predicate.allMentions parts ↔ ∃ part ∈ parts, ref ∈ part.mentions := by
  induction parts with
  | nil => simp [Predicate.allMentions]
  | cons part rest ih => simp [Predicate.allMentions, ih]

theorem join_mentions (combination : Combination) (parts : List Predicate) :
    (combination.join parts).mentions = Predicate.allMentions parts := by
  cases combination <;> rfl

theorem joined_mentions {α : Type} (combination : Combination) (shape : α → Predicate → Prop) (as : List α)
    (p : Predicate) (joined : Joined combination.join shape as p) (allowed : FieldRef → Prop)
    (each : ∀ a ∈ as, ∀ q, shape a q → ∀ ref ∈ q.mentions, allowed ref) : ∀ ref ∈ p.mentions, allowed ref := by
  refine joined_parts (fun q => ∀ ref ∈ q.mentions, allowed ref) _ joined each (fun q here => here) ?_
  intro parts _ within ref mentioned
  rw [join_mentions] at mentioned
  obtain ⟨q, member, here⟩ := (mem_all_mentions parts ref).mp mentioned
  exact within q member ref here

theorem token_mentions (kind : Kind) (target : Target) (levels : Nat) (token : Token) (p : Predicate)
    (shape : TokenShape kind target levels token p) : ∀ ref ∈ p.mentions, ref ∈ target.fields := by
  induction shape with
  | @leaf token leaf shape =>
      have here : leaf.mentions = target.fields := by cases shape <;> rfl
      intro ref mentioned
      split at mentioned
      · rw [Predicate.mentions, here] at mentioned
        rcases List.mem_append.mp mentioned with guarded | read
        · exact guarded
        · exact read
      · exact here ▸ mentioned
  | not inner ih => exact ih

theorem alternatives_mentions (kind : Kind) (target : Target) (tokens : List Token) (p : Predicate)
    (shape : Alternatives kind target tokens p) : ∀ ref ∈ p.mentions, ref ∈ target.fields := by
  refine joined_mentions .or _ tokens p shape (· ∈ target.fields) ?_
  intro token _ q shaped
  obtain ⟨levels, _, tokenShape⟩ := shaped
  exact token_mentions kind target levels token q tokenShape

theorem reading_mentions (reading : Reading) (p : Predicate) (shape : ReadingShape reading p) :
    ∀ ref ∈ p.mentions, ref = reading.route.ref := by
  intro ref mentioned
  cases shape with
  | scalar plain tokens =>
      exact List.mem_singleton.mp (alternatives_mentions _ _ _ p tokens ref mentioned)
  | collection items tokens =>
      rcases List.mem_cons.mp mentioned with here | inside
      · exact here
      · cases alternatives_mentions _ _ _ _ tokens ref inside

theorem compile_mentions (schema : Schema) (query : Query) (combination : Combination) (p : Predicate)
    (compiled : (compile schema query combination).result = .ok (some p)) :
    ∀ ref ∈ p.mentions, ∃ entry ∈ query, ∃ route, schema.resolve entry.path = .ok route ∧ route.ref = ref := by
  have shape := compile_shaped schema query combination p compiled
  refine joined_mentions combination _ _ p shape
    (fun ref => ∃ entry ∈ query, ∃ route, schema.resolve entry.path = .ok route ∧ route.ref = ref) ?_
  intro entry member q entryShape ref mentioned
  obtain ⟨reading, read, readingShape⟩ := entryShape
  have asked := (List.mem_filter.mp member).1
  obtain ⟨resolved, _⟩ := (read_entry_ok_iff schema entry reading).mp read
  exact ⟨entry, asked, reading.route, resolved, (reading_mentions reading q readingShape ref mentioned).symm⟩

-- For an entity of the schema, every field of a compiled predicate answers with a value of its kind,
-- and every comparison is sound, so that it makes no difference how others would be answered.
theorem compile_sound (schema : Schema) (query : Query) (combination : Combination) (p : Predicate) (entity : Entity)
    (compiled : (compile schema query combination).result = .ok (some p)) (admits : schema.Admits entity) :
    (∀ ref ∈ p.fields, ∃ entry ∈ query, ∃ route, schema.resolve entry.path = .ok route ∧ route.ref = ref ∧
        schema.Answers entity route) ∧
      (∀ check ∈ p.checks ⟨entity, none⟩, check.Sound) ∧
      ∀ answer : Check → Bool, (∀ check, check.Sound → answer check = check.passes) →
        p.holdsBy answer ⟨entity, none⟩ = p.holds entity := by
  have sound : ∀ check ∈ p.checks ⟨entity, none⟩, check.Sound :=
    joined_sound combination _ _ p ⟨entity, none⟩ (compile_shaped schema query combination p compiled)
      fun entry q => entry_sound schema entity entry q admits
  refine ⟨?_, sound, ?_⟩
  · intro ref member
    obtain ⟨entry, asked, route, resolved, same⟩ :=
      compile_mentions schema query combination p compiled ref (List.mem_eraseDups.mp member)
    exact ⟨entry, asked, route, resolved, same, resolve_answers schema entity entry.path route admits resolved⟩
  · intro answer agrees
    rw [Predicate.holds, ← Predicate.holds_by_passes]
    refine Predicate.holds_by_congr answer Check.passes ⟨entity, none⟩ p ?_
    intro check made
    exact agrees check (sound check made)

theorem compile_sound_of_people :
    let home : Schema := ⟨"homes", "Home", [⟨"City", .text⟩]⟩
    let schema : Schema := ⟨"people", "Person", [⟨"Age", .nullable .int⟩, ⟨"Home", .nullable (.record home)⟩]⟩
    let query : Query := [⟨"age", ["18&"]⟩, ⟨"home.city", ["not(x)"]⟩]
    let age : Target := .field ⟨"Age", [0]⟩
    let city : Target := .field ⟨"Home.City", [1, 0]⟩
    let p : Predicate := .and
      [.guarded age (.compare age .gte (.int 18) .numericWiden), .not (.contains city (.text "x"))]
    let entity : Entity := fun slot => [.int 20, .null][slot]?
    (compile schema query .and).result = .ok (some p) ∧ schema.Admits entity ∧
      (∀ ref ∈ p.fields, ∃ entry ∈ query, ∃ route, schema.resolve entry.path = .ok route ∧ route.ref = ref ∧
        schema.Answers entity route) ∧
      (∀ check ∈ p.checks ⟨entity, none⟩, check.Sound) ∧
      ∀ answer : Check → Bool, (∀ check, check.Sound → answer check = check.passes) →
        p.holdsBy answer ⟨entity, none⟩ = p.holds entity := by
  refine ⟨rfl, ?admits, compile_sound _ _ .and _ _ rfl ?admits⟩
  intro slot field declared
  match slot with
  | 0 =>
      cases declared
      exact ⟨.int 20, rfl, .present (.scalar (.int 20))⟩
  | 1 =>
      cases declared
      exact ⟨.null, rfl, .absent _⟩
  | slot + 2 => cases declared

end TokenFilter
