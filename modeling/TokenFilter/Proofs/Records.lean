import Mathlib.Data.List.Nodup
import TokenFilter.Entity
import TokenFilter.Proofs.Chains

set_option autoImplicit false

namespace TokenFilter

def Value.part? : Value → Nat → Option Value
  | .record fields, slot => fields[slot]?
  | _, _ => none

def Value.walk (root : Value) (slots : List Nat) : Option Value := slots.foldlM Value.part? root

namespace Declaration

inductive Reaches : {α : Type} → Declaration α → α → List Nat → Option Value → Prop where
  | field {α : Type} {declaration : Declaration α} {a : α} {slot : Nat} {column : Column α}
      (place : declaration.columns[slot]? = some column) : Reaches declaration a [slot] (some (column.read a))
  | beyond {α : Type} {declaration : Declaration α} {a : α} {slot : Nat} {rest : List Nat}
      (past : declaration.columns.length ≤ slot) : Reaches declaration a (slot :: rest) none
  | within {α β : Type} {declaration : Declaration α} {inner : Declaration β} {a : α} {b : β} {slot next : Nat}
      {rest : List Nat} {column : Column α} {value : Option Value} (place : declaration.columns[slot]? = some column)
      (nested : column.read a = inner.record b) (deeper : Reaches inner b (next :: rest) value) :
      Reaches declaration a (slot :: next :: rest) value
  -- The field holds no record, such as one that is null or a list.
  | blocked {α : Type} {declaration : Declaration α} {a : α} {slot next : Nat} {rest : List Nat} {column : Column α}
      (place : declaration.columns[slot]? = some column) (plain : ∀ fields, column.read a ≠ .record fields) :
      Reaches declaration a (slot :: next :: rest) none

end Declaration

theorem walk_cons (root : Value) (slot : Nat) (rest : List Nat) :
    root.walk (slot :: rest) = (root.part? slot).bind fun part => part.walk rest := List.foldlM_cons

theorem descend_walk (value : Value) (slots : List Nat) : value.descend slots = value.walk slots := by
  induction slots generalizing value with
  | nil => cases value <;> rfl
  | cons slot rest ih =>
      rw [walk_cons]
      cases value with
      | record fields => simp only [Value.descend, Value.part?, ih]
      | _ => rfl

namespace Declaration

variable {α : Type} (declaration : Declaration α) (a : α)

def parts : List Value := declaration.columns.map fun column => column.read a

theorem column_named (column : Column α) (declared : column ∈ declaration.columns) :
    declaration.columns.find? (fun other => other.name == column.name) = some column := by
  cases found : declaration.columns.find? (fun other => other.name == column.name) with
  | none =>
      have missed := List.find?_eq_none.mp found column declared
      exact absurd (beq_self_eq_true _) missed
  | some other =>
      have same : other.name = column.name := by simpa using List.find?_some found
      have member := List.mem_of_find?_eq_some found
      rw [List.inj_on_of_nodup_map declaration.names_nodup member declared same]

-- The slot of a field is its place among the parts, although the field is looked up by its name.
theorem value_part (slot : Nat) : declaration.entity a slot = (declaration.parts a)[slot]? := by
  rw [entity, valueAt, parts, List.getElem?_map]
  cases place : declaration.columns[slot]? with
  | none => rfl
  | some column =>
      rw [Option.bind_some, declaration.column_named column (List.mem_of_getElem? place)]

theorem read_walk (slot : Nat) (rest : List Nat) :
    (declaration.entity a).read (slot :: rest) = (declaration.record a).walk (slot :: rest) := by
  rw [Entity.read, value_part, walk_cons]
  simp only [descend_walk]
  rfl

variable {declaration a}

theorem reaches_walk (slots : List Nat) (value : Option Value) (reached : declaration.Reaches a slots value) :
    (declaration.record a).walk slots = value := by
  induction reached with
  | @field α declaration a slot column place =>
      have part : (declaration.record a).part? slot = some (column.read a) := by
        simp [record, Value.part?, place]
      rw [walk_cons, part]
      rfl
  | @beyond α declaration a slot rest past =>
      have part : (declaration.record a).part? slot = none := by
        simp [record, Value.part?, past]
      rw [walk_cons, part]
      rfl
  | @within α β declaration inner a b slot next rest column value place nested deeper ih =>
      have part : (declaration.record a).part? slot = some (inner.record b) := by
        simp [record, Value.part?, place, nested]
      rw [walk_cons, part]
      exact ih
  | @blocked α declaration a slot next rest column place plain =>
      have part : (declaration.record a).part? slot = some (column.read a) := by
        simp [record, Value.part?, place]
      rw [walk_cons, part, Option.bind_some, walk_cons]
      cases held : column.read a with
      | record fields => exact absurd held (plain fields)
      | _ => rfl

theorem reaches_some (slots : List Nat) (value : Option Value) (reached : declaration.Reaches a slots value) :
    slots ≠ [] := by
  cases reached <;> simp

end Declaration

theorem route_somewhere (schema : Schema) (path : String) (route : Path.Route)
    (resolved : schema.resolve path = .ok route) : route.slots ≠ [] := by
  have chain := (resolve_chain schema path route).mp resolved
  generalize Path.segments path = segments at chain
  cases chain <;> simp

-- An instance answers for each slot with the part of its record in that slot, and for no other slot. So a chain of slots
-- leads to the same in the entity and in the record, whether a path gave it or not, and to what the fields of the
-- nested instances hold: nothing, once a field that is null or no record is to be gone through.
theorem entity_record {α : Type} (declaration : Declaration α) (a : α) :
    (∃ parts, declaration.record a = .record parts ∧ parts.length = declaration.schema.fields.length ∧
      (∀ slot < parts.length, ∃ part, parts[slot]? = some part ∧ declaration.entity a slot = some part) ∧
      ∀ slot, parts.length ≤ slot → declaration.entity a slot = none) ∧
    (∀ path route, declaration.schema.resolve path = .ok route →
      (declaration.entity a).read route.slots = (declaration.record a).walk route.slots) ∧
    (∀ slots, slots ≠ [] → (declaration.entity a).read slots = (declaration.record a).walk slots) ∧
    ∀ slots value, declaration.Reaches a slots value →
      (declaration.entity a).read slots = value ∧ (declaration.record a).walk slots = value := by
  have alike : ∀ slots, slots ≠ [] → (declaration.entity a).read slots = (declaration.record a).walk slots := by
    intro slots somewhere
    obtain ⟨slot, rest, rfl⟩ := List.exists_cons_of_ne_nil somewhere
    exact declaration.read_walk a slot rest
  refine ⟨⟨declaration.parts a, rfl, ?_, ?_, ?_⟩, ?_, alike, ?_⟩
  · simp [Declaration.parts, Declaration.schema]
  · intro slot within
    refine ⟨_, List.getElem?_eq_getElem within, ?_⟩
    rw [declaration.value_part, List.getElem?_eq_getElem within]
  · intro slot past
    rw [declaration.value_part, List.getElem?_eq_none past]
  · intro path route resolved
    exact alike route.slots (route_somewhere _ path route resolved)
  · intro slots value reached
    have walked := Declaration.reaches_walk slots value reached
    exact ⟨(alike slots (Declaration.reaches_some slots value reached)).trans walked, walked⟩

theorem entity_record_of_people :
    let home : Declaration (String × Option UInt32) :=
      ⟨"homes", "Home", [.of "city" .text Prod.fst, .of "Zip" (.nullable .uint) Prod.snd], by decide⟩
    let person : Declaration (List Int64 × Option (String × Option UInt32)) :=
      ⟨"people", "Person", [.of "ages" (.list .int) Prod.fst,
        ⟨"Home", .nullable (.record home.schema), fun a => (a.2.map home.record).getD .null⟩], by decide⟩
    let route : Path.Route := ⟨["Home", "Zip"], [1, 1], .nullable .uint⟩
    person.schema.resolve "HOME.zip" = .ok route ∧
      (person.entity ([], some ("Oslo", some 150))).read route.slots = some (.uint 150) ∧
      (person.record ([], some ("Oslo", some 150))).walk route.slots = some (.uint 150) ∧
      (person.record ([], some ("Oslo", none))).walk route.slots = some .null ∧
      (person.entity ([], none)).read route.slots = none ∧
      (person.record ([30], none)).walk [0, 0] = none ∧ person.entity ([], none) 2 = none := by
  intro home person route
  have resolved : person.schema.resolve "HOME.zip" = .ok route := by
    unfold route person home
    rfl
  have zip : home.columns[1]? = some (.of "Zip" (.nullable .uint) Prod.snd) := rfl
  have housed : person.Reaches ([], some ("Oslo", some 150)) [1, 1] (some (.uint 150)) := .within rfl rfl (.field zip)
  have homeless : person.Reaches ([], none) [1, 1] none := .blocked rfl (by rintro fields ⟨⟩)
  have numberless : person.Reaches ([], some ("Oslo", none)) [1, 1] (some .null) := .within rfl rfl (.field zip)
  have listed : person.Reaches ([30], none) [0, 0] none := .blocked rfl (by rintro fields ⟨⟩)
  have reads := fun a => (entity_record person a).2.2.2
  exact ⟨resolved, (reads _ _ _ housed).1, (reads _ _ _ housed).2, (reads _ _ _ numberless).2, (reads _ _ _ homeless).1,
    (reads _ _ _ listed).2, rfl⟩

end TokenFilter
