import Mathlib.Tactic.NormNum
import TokenFilter.Proofs.Agreement
import TokenFilter.Proofs.Decimals
import TokenFilter.Proofs.Soundness

set_option autoImplicit false

namespace TokenFilter

inductive Value.Resembles : Value → Value → Prop where
  | same (value : Value) : Value.Resembles value value
  | dateTime {d other : Calendar.DateTime} (day : d.date = other.date) :
      Value.Resembles (.dateTime d) (.dateTime other)
  | dateTimeOffset {d other : Calendar.OffsetDateTime} (instant : d.universal = other.universal) :
      Value.Resembles (.dateTimeOffset d) (.dateTimeOffset other)
  | decimal {d other : Decimal} (number : d.number = other.number) : Value.Resembles (.decimal d) (.decimal other)
  | list {items others : List Value} (each : List.Forall₂ Value.Resembles items others) :
      Value.Resembles (.list items) (.list others)
  | record {fields others : List Value} (each : List.Forall₂ Value.Resembles fields others) :
      Value.Resembles (.record fields) (.record others)

def Entity.Resembles (entity other : Entity) : Prop := ∀ slot, Option.Rel Value.Resembles (entity slot) (other slot)

section Reading

variable {α β γ δ : Type}

theorem forall_get {R : α → β → Prop} {xs : List α} {ys : List β} (related : List.Forall₂ R xs ys) (slot : Nat) :
    Option.Rel R xs[slot]? ys[slot]? := by
  induction related generalizing slot with
  | nil => exact .none
  | cons here _ ih =>
      cases slot with
      | zero => exact .some here
      | succ slot => exact ih slot

theorem rel_bind {R : α → β → Prop} {S : γ → δ → Prop} {x : Option α} {y : Option β} {f : α → Option γ}
    {g : β → Option δ} (related : Option.Rel R x y) (each : ∀ a b, R a b → Option.Rel S (f a) (g b)) :
    Option.Rel S (x.bind f) (y.bind g) := by
  cases related with
  | none => exact .none
  | some here => exact each _ _ here

theorem rel_refl {R : α → α → Prop} (here : ∀ a, R a a) (x : Option α) : Option.Rel R x x := by
  cases x with
  | none => exact .none
  | some a => exact .some (here a)

theorem descend_resembling (value other : Value) (slots : List Nat) (resembles : value.Resembles other) :
    Option.Rel Value.Resembles (value.descend slots) (other.descend slots) := by
  induction slots generalizing value other with
  | nil => exact .some resembles
  | cons slot rest ih =>
      cases resembles with
      | same => exact rel_refl Value.Resembles.same _
      | record each => exact rel_bind (forall_get each slot) ih
      | _ => exact .none

theorem read_resembling (entity other : Entity) (slots : List Nat) (resembles : entity.Resembles other) :
    Option.Rel Value.Resembles (entity.read slots) (other.read slots) := by
  cases slots with
  | nil => exact .none
  | cons slot rest =>
      apply rel_bind (resembles slot)
      intro value like here
      exact descend_resembling value like rest here

end Reading

section Comparisons

variable {kind : Kind} {actual other : Value}

theorem present_conforms (conforms : Conforms kind actual)
    (present : kind.isNullable = true → actual.isNull = false) : Conforms kind.nonNull actual := by
  cases nullable : kind.isNullable with
  | false => rwa [non_null_plain kind nullable]
  | true => exact conforms_non_null kind actual conforms (present nullable)

-- Without the types this fails: a date-time with an offset has a day of its own in every place.
theorem agrees_resembling (literal : Value) (typed : ScalarOf kind.nonNull actual)
    (scalar : ScalarOf kind.nonNull literal) (resembles : actual.Resembles other) :
    kind.Agrees actual literal ↔ kind.Agrees other literal := by
  unfold Kind.Agrees
  generalize kind.nonNull = inner at *
  cases resembles with
  | same => exact Iff.rfl
  | dateTime day =>
      cases typed
      simp only [Value.date?, day]
  | dateTimeOffset instant =>
      cases typed
      cases scalar
      simp only [Value.same, Calendar.OffsetDateTime.same, Calendar.OffsetDateTime.compare, instant]
  | decimal number =>
      cases typed
      cases scalar
      simp only [Value.compareNumeric, Value.numeric?, Decimal.compare_number, number]
  | list each => cases typed
  | record each => cases typed

theorem order_resembling (literal : Value) (typed : ScalarOf kind.nonNull actual)
    (scalar : ScalarOf kind.nonNull literal) (resembles : actual.Resembles other) :
    kind.order? actual literal = kind.order? other literal := by
  unfold Kind.order?
  generalize kind.nonNull = inner at *
  cases resembles with
  | same => rfl
  | dateTime day =>
      cases typed
      simp only [Value.date?, day]
  | dateTimeOffset instant =>
      cases typed
      cases scalar
      simp only [Value.compareStrict, Calendar.OffsetDateTime.compare, instant]
  | decimal number =>
      cases typed
      cases scalar
      simp only [Value.compareNumeric, Value.numeric?, Decimal.compare_number, number]
  | list each => cases typed
  | record each => cases typed

theorem stands_resembling (ask : Ordering → Bool) (cs : List Char) (conforms : Conforms kind.nonNull actual)
    (resembles : actual.Resembles other) : kind.Stands ask actual cs ↔ kind.Stands ask other cs := by
  apply exists_congr
  intro literal
  apply exists_congr
  intro order
  apply and_congr_right
  intro read
  have scalar := read_literal_scalar kind cs literal read
  have typed := conforms_scalar kind.nonNull literal actual scalar conforms
  rw [order_resembling literal typed scalar resembles]

theorem null_resembling (resembles : actual.Resembles other) : actual.isNull = other.isNull := by
  cases resembles <;> rfl

theorem text_resembling (s : String) (resembles : actual.Resembles other) : actual = .text s ↔ other = .text s := by
  cases resembles with
  | same => exact Iff.rfl
  | _ => simp

theorem such_resembling (value like : Option Value) (ask : Value → Prop)
    (typed : ∀ actual, value = some actual → Conforms kind actual) (resembles : Option.Rel Value.Resembles value like)
    (same : ∀ actual other, Conforms kind.nonNull actual → actual.Resembles other → (ask actual ↔ ask other)) :
    kind.HasSuch value ask ↔ kind.HasSuch like ask := by
  cases resembles with
  | none => exact Iff.rfl
  | @some actual other here =>
      simp only [Kind.HasSuch, Option.some.injEq, exists_eq_left', ← null_resembling here]
      apply and_congr_right
      intro present
      exact same actual other (present_conforms (typed actual rfl) present) here

theorem token_resembling (token : Token) (value like : Option Value)
    (typed : ∀ actual, value = some actual → Conforms kind actual) (resembles : Option.Rel Value.Resembles value like) :
    token.Matches kind value ↔ token.Matches kind like := by
  induction token with
  | not inner ih => exact not_congr ih
  | range lower upper =>
      apply such_resembling value like _ typed resembles
      intro actual other conforms here
      simp only [stands_resembling _ _ conforms here]
  | function fn argument =>
      apply such_resembling value like _ typed resembles
      intro actual other _ here
      simp only [text_resembling _ here]
  | literal cs =>
      apply such_resembling value like _ typed resembles
      intro actual other conforms here
      apply exists_congr
      intro literal
      apply and_congr_right
      intro read
      have scalar := read_literal_scalar kind cs literal read
      exact agrees_resembling literal (conforms_scalar kind.nonNull literal actual scalar conforms) scalar here

end Comparisons

theorem items_resembling (item : Kind) (tokens : List Token) (items others : List Value)
    (typed : ∀ value ∈ items, Conforms item value) (each : List.Forall₂ Value.Resembles items others) :
    (∃ value ∈ items, ∃ token ∈ tokens, token.Matches item (some value)) ↔
      ∃ value ∈ others, ∃ token ∈ tokens, token.Matches item (some value) := by
  induction each with
  | nil => exact Iff.rfl
  | @cons value like items others here _ ih =>
      have same : ∀ token : Token, token.Matches item (some value) ↔ token.Matches item (some like) := by
        intro token
        apply token_resembling token (some value) (some like) _ (.some here)
        intro actual bound
        cases bound
        exact typed value (by simp)
      have rest := ih fun inner member => typed inner (by simp [member])
      rw [List.exists_mem_cons_iff, List.exists_mem_cons_iff, rest]
      simp only [same]

theorem reading_resembling (schema : Schema) (entity other : Entity) (reading : Reading)
    (answers : schema.Answers entity reading.route) (resembles : entity.Resembles other) :
    reading.Matches entity ↔ reading.Matches other := by
  have read := read_resembling entity other reading.route.slots resembles
  have typed := read_resolved schema entity reading.route answers
  unfold Reading.Matches
  cases collection : reading.route.kind.item? with
  | none =>
      apply exists_congr
      intro token
      rw [token_resembling token _ _ typed read]
  | some item =>
      generalize entity.read reading.route.slots = first at read typed
      generalize other.read reading.route.slots = second at read
      cases read with
      | none => exact Iff.rfl
      | @some value like here =>
          have conforms := conforms_items reading.route.kind item value collection (typed value rfl)
          cases here with
          | @list items others each =>
              have alike := items_resembling item reading.surviving items others conforms each
              simpa using alike
          | same => exact Iff.rfl
          | _ => simp

theorem entry_resembling (schema : Schema) (entity other : Entity) (entry : Entry) (admits : schema.Admits entity)
    (resembles : entity.Resembles other) : schema.Matches entity entry ↔ schema.Matches other entry := by
  apply exists_congr
  intro reading
  apply and_congr_right
  intro read
  obtain ⟨resolved, _⟩ := (read_entry_ok_iff schema entry reading).mp read
  have answers := resolve_answers schema entity entry.path reading.route admits resolved
  exact reading_resembling schema entity other reading answers resembles

-- It is enough that one of the entities is of the schema.
theorem compile_resembling (schema : Schema) (query : Query) (combination : Combination) (p : Predicate)
    (entity other : Entity) (compiled : (compile schema query combination).result = .ok (some p))
    (admits : schema.Admits entity) (resembles : entity.Resembles other) : p.holds entity = p.holds other := by
  have same : schema.Matches entity = schema.Matches other := by
    funext entry
    exact propext (entry_resembling schema entity other entry admits resembles)
  rw [Bool.eq_iff_iff, compiled_holds schema query combination p entity compiled,
    compiled_holds schema query combination p other compiled, same]

theorem compile_resembling_of_people :
    let visit : Schema := ⟨"visits", "Visit", [⟨"At", .dateTime⟩]⟩
    let schema : Schema := ⟨"people", "Person",
      [⟨"Seen", .nullable .dateTimeOffset⟩, ⟨"Sums", .list .decimal⟩, ⟨"Visit", .record visit⟩]⟩
    let query : Query :=
      [⟨"seen", ["2024-01-02T12:00:00Z&"]⟩, ⟨"sums", ["not(1.5)"]⟩, ⟨"visit.at", ["2024-01-02"]⟩]
    let day : Calendar.Date := ⟨2024, 1, 2, by decide, by decide, by decide, by decide, by decide, by decide⟩
    let noon : Calendar.Time := ⟨43200, 0, by decide, by decide⟩
    let near : Calendar.OffsetDateTime := ⟨⟨day, noon⟩, 0, by decide⟩
    let far : Calendar.OffsetDateTime := ⟨⟨day, noon⟩, 3601, by decide⟩
    let short : Decimal := ⟨false, 15, 1, by decide, by decide⟩
    let long : Decimal := ⟨false, 150, 2, by decide, by decide⟩
    let entity : Entity := fun slot =>
      [.dateTimeOffset near, .list [.decimal short], .record [.dateTime ⟨day, noon⟩]][slot]?
    let other : Entity := fun slot =>
      [.dateTimeOffset far, .list [.decimal long], .record [.dateTime ⟨day, .midnight⟩]][slot]?
    let seen : Target := .field ⟨"Seen", [0]⟩
    let sums : Target := .field ⟨"Sums", [1]⟩
    let time : Target := .field ⟨"Visit.At", [2, 0]⟩
    let p : Predicate := .and
      [.guarded seen (.compare seen .gte (.dateTimeOffset near) .strict),
        .exists sums (.not (.compare .item .eq (.decimal short) .numericWiden)),
        .compare time .eq (.dateTime ⟨day, .midnight⟩) .dateTruncate]
    (compile schema query .and).result = .ok (some p) ∧ schema.Admits entity ∧ entity.Resembles other ∧
      p.holds entity = p.holds other := by
  refine ⟨?compiled, ?admits, ?resembles, compile_resembling _ _ .and _ _ _ ?compiled ?admits ?resembles⟩
  case compiled => rfl
  case admits =>
    intro slot field declared
    match slot with
    | 0 =>
        cases declared
        exact ⟨_, rfl, .present (.scalar (.dateTimeOffset _))⟩
    | 1 =>
        cases declared
        refine ⟨_, rfl, .list ?_⟩
        intro value member
        cases List.mem_singleton.mp member
        exact .scalar (.decimal _)
    | 2 =>
        cases declared
        exact ⟨_, rfl, .record (.cons (.scalar (.dateTime _)) .nil)⟩
    | slot + 3 => cases declared
  case resembles =>
    intro slot
    refine forall_get (.cons (.dateTimeOffset rfl) (.cons (.list ?_) (.cons (.record ?_) .nil))) slot
    · refine .cons (.decimal ?_) .nil
      norm_num [Decimal.number, Decimal.signed]
    · exact .cons (.dateTime rfl) .nil

end TokenFilter
