import TokenFilter.Predicate.Evaluation
import TokenFilter.Proofs.Literals
import TokenFilter.Proofs.Paths

set_option autoImplicit false

namespace TokenFilter

-- A field without filters may hold anything.
mutual
inductive Conforms : Kind → Value → Prop where
  | scalar {kind : Kind} {value : Value} (one : ScalarOf kind value) : Conforms kind value
  | absent (kind : Kind) : Conforms (.nullable kind) .null
  | present {kind : Kind} {value : Value} (inner : Conforms kind value) : Conforms (.nullable kind) value
  | list {item : Kind} {items : List Value} (each : ∀ value ∈ items, Conforms item value) :
      Conforms (.list item) (.list items)
  | record {schema : Schema} {values : List Value} (each : FieldsConform schema.fields values) :
      Conforms (.record schema) (.record values)
  | unsupported (value : Value) : Conforms .unsupported value
inductive FieldsConform : List Field → List Value → Prop where
  | nil : FieldsConform [] []
  | cons {field : Field} {fields : List Field} {value : Value} {values : List Value}
      (here : Conforms field.kind value) (rest : FieldsConform fields values) :
      FieldsConform (field :: fields) (value :: values)
end

def SchemaOf.Admits (schema : Schema) (entity : Entity) : Prop :=
  ∀ slot field, schema.fields[slot]? = some field → ∃ value, entity slot = some value ∧ Conforms field.kind value

theorem fields_conform_get (fields : List Field) (values : List Value) (conforms : FieldsConform fields values)
    (slot : Nat) (field : Field) (declared : fields[slot]? = some field) :
    ∃ value, values[slot]? = some value ∧ Conforms field.kind value := by
  induction fields generalizing values slot with
  | nil => simp at declared
  | cons first others ih =>
      cases conforms with
      | @cons _ _ value rest here tail =>
          cases slot with
          | zero =>
              obtain rfl : first = field := by simpa using declared
              exact ⟨value, rfl, here⟩
          | succ slot => exact ih rest tail slot declared

theorem conforms_non_null (kind : Kind) (value : Value) (conforms : Conforms kind value)
    (present : value.isNull = false) : Conforms kind.nonNull value := by
  fun_induction Kind.nonNull kind with
  | case1 inner ih =>
      cases conforms with
      | scalar one => cases one
      | absent => cases present
      | present conforms => exact ih conforms
  | case2 kind plain => exact conforms

theorem conforms_null (kind : Kind) (conforms : Conforms kind .null) :
    kind.isNullable = true ∨ kind = .unsupported := by
  cases conforms with
  | scalar one => cases one
  | absent => exact .inl rfl
  | present => exact .inl rfl
  | unsupported => exact .inr rfl

def SchemaOf.NullOnTheWay (schema : Schema) (entity : Entity) (slots : List Nat) : Prop :=
  ∃ front back outer, slots = front ++ back ∧ back ≠ [] ∧ schema.kindAt? front = some outer ∧
    outer.isNullable = true ∧ outer.record?.isSome = true ∧ entity.read front = some .null

theorem record_non_null (kind : Kind) (inner : Schema) (record : kind.record? = some inner) :
    kind.nonNull = .record inner := by
  unfold Kind.record? at record
  split at record
  · rename_i eq
    cases record
    exact eq
  · cases record

theorem item_non_null (kind item : Kind) (collection : kind.item? = some item) : kind.nonNull = .list item := by
  unfold Kind.item? at collection
  split at collection
  · rename_i eq
    cases collection
    exact eq
  · cases collection

theorem conforms_record (kind : Kind) (inner : Schema) (value : Value) (record : kind.record? = some inner)
    (conforms : Conforms kind value) :
    value = .null ∧ kind.isNullable = true ∨
      ∃ values, value = .record values ∧ FieldsConform inner.fields values := by
  cases present : value.isNull with
  | true =>
      cases value <;> cases present
      rcases conforms_null kind conforms with nullable | rfl
      · exact .inl ⟨rfl, nullable⟩
      · cases record
  | false =>
      have inside := conforms_non_null kind value conforms present
      rw [record_non_null kind inner record] at inside
      cases inside with
      | scalar one => cases one
      | record each => exact .inr ⟨_, rfl, each⟩

theorem conforms_items (kind item : Kind) (value : Value) (collection : kind.item? = some item)
    (conforms : Conforms kind value) : ∀ v ∈ value.items, Conforms item v := by
  cases present : value.isNull with
  | true =>
      cases value <;> cases present
      intro v member
      cases member
  | false =>
      have inside := conforms_non_null kind value conforms present
      rw [item_non_null kind item collection] at inside
      cases inside with
      | scalar one => cases one
      | list each => exact each

theorem kind_at_through (schema inner : Schema) (slot : Nat) (field : Field) (front : List Nat) (kind : Kind)
    (declared : schema.fields[slot]? = some field) (record : field.kind.record? = some inner)
    (deeper : inner.kindAt? front = some kind) : schema.kindAt? (slot :: front) = some kind := by
  cases front with
  | nil => cases deeper
  | cons next rest => simp [SchemaOf.kindAt?, declared, record, deeper]

theorem read_through (entity : Entity) (slot : Nat) (values : List Value) (slots : List Nat)
    (answered : entity slot = some (.record values)) (more : slots ≠ []) :
    entity.read (slot :: slots) = Entity.read (fun i => values[i]?) slots := by
  cases slots with
  | nil => exact absurd rfl more
  | cons next rest => simp [Entity.read, answered, Value.descend]

theorem null_through (schema inner : Schema) (entity : Entity) (slot : Nat) (field : Field) (values : List Value)
    (slots : List Nat) (declared : schema.fields[slot]? = some field) (record : field.kind.record? = some inner)
    (answered : entity slot = some (.record values)) (null : inner.NullOnTheWay (fun i => values[i]?) slots) :
    schema.NullOnTheWay entity (slot :: slots) := by
  obtain ⟨front, back, outer, split, more, deeper, nullable, isRecord, isNull⟩ := null
  have begun : front ≠ [] := by
    intro empty
    subst empty
    cases isNull
  have reached := kind_at_through schema inner slot field front outer declared record deeper
  refine ⟨slot :: front, back, outer, by rw [split, List.cons_append], more, reached, nullable, isRecord, ?_⟩
  rw [read_through entity slot values front answered begun]
  exact isNull

theorem read_conforming (schema : Schema) (entity : Entity) (slots : List Nat) (kind : Kind)
    (admits : schema.Admits entity) (declared : schema.kindAt? slots = some kind) :
    (∃ value, entity.read slots = some value ∧ Conforms kind value) ∨
      entity.read slots = none ∧ schema.NullOnTheWay entity slots := by
  -- A record within an entity is an entity of its own, so the induction follows the slots into it.
  fun_induction SchemaOf.kindAt? schema slots generalizing entity with
  | case1 schema => cases declared
  | case2 schema slot =>
      obtain ⟨field, present, rfl⟩ := Option.map_eq_some_iff.mp declared
      obtain ⟨value, answered, conforms⟩ := admits slot field present
      refine .inl ⟨value, ?_, conforms⟩
      simp [Entity.read, answered, Value.descend]
  | case3 schema slot next rest ih =>
      obtain ⟨field, present, deeper⟩ := Option.bind_eq_some_iff.mp declared
      obtain ⟨inner, record, declaredInner⟩ := Option.bind_eq_some_iff.mp deeper
      obtain ⟨value, answered, conforms⟩ := admits slot field present
      rcases conforms_record field.kind inner value record conforms with ⟨rfl, nullable⟩ | ⟨values, rfl, each⟩
      · have reached : schema.kindAt? [slot] = some field.kind := by simp [SchemaOf.kindAt?, present]
        have isRecord : field.kind.record?.isSome = true := by rw [record]; rfl
        refine .inr ⟨?_, [slot], next :: rest, field.kind, rfl, by simp, reached, nullable, isRecord, ?_⟩
        · simp [Entity.read, answered, Value.descend]
        · simp [Entity.read, answered, Value.descend]
      · have admitsInner : inner.Admits fun i => values[i]? := fields_conform_get inner.fields values each
        rw [read_through entity slot values (next :: rest) answered (by simp)]
        rcases ih inner _ admitsInner declaredInner with found | ⟨unread, null⟩
        · exact .inl found
        · exact .inr ⟨unread, null_through schema inner entity slot field values _ present record answered null⟩

end TokenFilter
