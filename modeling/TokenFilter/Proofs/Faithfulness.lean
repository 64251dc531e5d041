import TokenFilter.Predicate.Evaluation
import TokenFilter.Proofs.Shape
import TokenFilter.Proofs.Serialization

set_option autoImplicit false

namespace TokenFilter

section Literals

variable (test : Value → Bool) (texts : ∀ s, test (.text s) = true)
include texts

theorem leaf_literals (kind : Kind) (target : Target) (token : Token) (leaf : Predicate)
    (given : ∀ cs value, kind.readLiteral cs = .ok value → test value = true)
    (shape : LeafShape kind target token leaf) : leaf.everyLiteral test = true := by
  cases shape with
  | contains textual read => exact given _ _ read
  | function textual => exact texts _
  | equal other read => exact given _ _ read
  | atLeast ranged read => exact given _ _ read
  | atMost ranged read => exact given _ _ read
  | between ranged readLow readHigh =>
      rw [Predicate.everyLiteral, Bool.and_eq_true]
      exact ⟨given _ _ readLow, given _ _ readHigh⟩

theorem token_literals (kind : Kind) (target : Target) (levels : Nat) (token : Token) (p : Predicate)
    (given : ∀ cs value, kind.readLiteral cs = .ok value → test value = true)
    (shape : TokenShape kind target levels token p) : p.everyLiteral test = true := by
  induction shape with
  | @leaf token leaf shape =>
      have here := leaf_literals test texts kind target token leaf given shape
      split
      · exact here
      · exact here
  | not inner ih => exact ih

omit texts in
theorem all_literals_iff (parts : List Predicate) :
    Predicate.allLiterals test parts = true ↔ ∀ part ∈ parts, part.everyLiteral test = true := by
  induction parts with
  | nil => simp [Predicate.allLiterals]
  | cons part rest ih => simp [Predicate.allLiterals, ih]

omit texts in
theorem joined_literals {α : Type} (combination : Combination) (shape : α → Predicate → Prop) (as : List α)
    (p : Predicate) (joined : Joined combination.join shape as p)
    (each : ∀ a ∈ as, ∀ q, shape a q → q.everyLiteral test = true) : p.everyLiteral test = true := by
  refine joined_parts (fun q => q.everyLiteral test = true) _ joined each (fun q here => here) ?_
  intro parts _ every
  have all := (all_literals_iff test parts).mpr every
  cases combination <;> exact all

theorem alternatives_literals (kind : Kind) (target : Target) (tokens : List Token) (p : Predicate)
    (given : ∀ cs value, kind.readLiteral cs = .ok value → test value = true)
    (shape : Alternatives kind target tokens p) : p.everyLiteral test = true := by
  refine joined_literals test .or _ tokens p shape ?_
  intro token _ q shaped
  obtain ⟨levels, _, tokenShape⟩ := shaped
  exact token_literals test texts kind target levels token q given tokenShape

theorem reading_literals (reading : Reading) (p : Predicate)
    (given : ∀ cs value, reading.route.kind.leaf.readLiteral cs = .ok value → test value = true)
    (shape : ReadingShape reading p) : p.everyLiteral test = true := by
  cases shape with
  | scalar plain tokens =>
      rw [reading.route.kind.leaf_plain plain] at given
      exact alternatives_literals test texts _ _ _ p given tokens
  | @collection item inner items tokens =>
      rw [reading.route.kind.leaf_item item items] at given
      exact alternatives_literals test texts item .item _ inner given tokens

-- Every literal of a compiled predicate is a text, or read for the leaf of a path of the query.
theorem compile_literals (schema : Schema) (query : Query) (combination : Combination) (p : Predicate)
    (compiled : (compile schema query combination).result = .ok (some p))
    (given : ∀ entry ∈ query, ∀ route, schema.resolve entry.path = .ok route →
      ∀ cs value, route.kind.leaf.readLiteral cs = .ok value → test value = true) : p.everyLiteral test = true := by
  refine joined_literals test combination _ _ p (compile_shaped schema query combination p compiled) ?_
  intro entry member q shaped
  obtain ⟨reading, read, shape⟩ := shaped
  obtain ⟨resolved, _⟩ := (read_entry_ok_iff schema entry reading).mp read
  exact reading_literals test texts reading q (given entry (List.mem_of_mem_filter member) reading.route resolved) shape

end Literals

theorem literal_finite (kind : Kind) (cs : List Char) (value : Value) (whole : kind.nonNull ≠ .float)
    (read : kind.readLiteral cs = .ok value) : value.isFinite = true := by
  have scalar := read_literal_scalar kind cs value read
  generalize kind.nonNull = inner at whole scalar
  cases scalar with
  | float x => exact absurd rfl whole
  | _ => rfl

-- A compiled predicate and any other whose times their texts tell, as those of every compiled one do, are written
-- alike just if they are one predicate but for floats that are not finite. So the JSON tells a predicate without such
-- floats, which is what every query about other fields comes to.
theorem compile_serialized (schema : Schema) (query : Query) (combination : Combination) (p q : Predicate)
    (compiled : (compile schema query combination).result = .ok (some p)) :
    p.isWritten = true ∧
      (q.isWritten = true → (p.json.render = q.json.render ↔ p.masked = q.masked)) ∧
      (p.isFinite = true → q.isWritten = true → p.json.render = q.json.render →
        p = q ∧ ∀ entity, p.holds entity = q.holds entity) ∧
      ((∀ entry ∈ query, ∀ route, schema.resolve entry.path = .ok route → route.kind.leaf.nonNull ≠ .float) →
        p.isFinite = true) := by
  have written : p.isWritten = true :=
    compile_literals _ (fun _ => rfl) schema query combination p compiled
      fun _ _ route _ cs value read => literal_written route.kind.leaf cs value read
  refine ⟨written, p.json_text_iff q written, ?_, ?_⟩
  · intro finite written' same
    have equal := p.eq_of_masked q finite ((p.json_text_iff q written written').mp same)
    exact ⟨equal, fun entity => by rw [equal]⟩
  · intro whole
    refine compile_literals _ (fun _ => rfl) schema query combination p compiled ?_
    intro entry given route resolved cs value read
    exact literal_finite route.kind.leaf cs value (whole entry given route resolved) read

theorem compile_serialized_of_readings :
    let schema : Schema := ⟨"readings", "Reading", [⟨"Level", .float⟩, ⟨"Count", .nullable .int⟩]⟩
    let level : Target := .field ⟨"Level", [0]⟩
    let count : Target := .field ⟨"Count", [1]⟩
    let p : Predicate := .compare level .lte (.float (.ofQuotient false 1 10)) .numericWiden
    let r : Predicate := .guarded count (.compare count .gte (.int 18) .numericWiden)
    (compile schema [⟨"level", ["&0.1"]⟩] .and).result = .ok (some p) ∧
      p.json.render = "\x7b\"Compare\":\x7b\"target\":\x7b\"Field\":\x7b\"path\":\"Level\",\"slots\":[0]\x7d\x7d," ++
        "\"op\":\"Lte\",\"value\":\x7b\"Float64\":0.1\x7d,\"coercion\":\"NumericWiden\"\x7d\x7d" ∧
      (∀ q : Predicate, q.isWritten = true → p.json.render = q.json.render →
        p = q ∧ ∀ entity, p.holds entity = q.holds entity) ∧
      (compile schema [⟨"count", ["18&"]⟩] .and).result = .ok (some r) ∧ r.isFinite = true := by
  intro schema level count p r
  refine ⟨rfl, by decide +kernel, ?_, rfl, ?_⟩
  · exact fun q => (compile_serialized schema [⟨"level", ["&0.1"]⟩] .and p q rfl).2.2.1 (by decide +kernel)
  · refine (compile_serialized schema [⟨"count", ["18&"]⟩] .and r r rfl).2.2.2 ?_
    intro entry given route resolved
    rw [List.mem_singleton.mp given] at resolved
    cases resolved
    exact fun float => by cases float

-- Both infinities are written as null.
theorem infinities_serialized_alike :
    let schema : Schema := ⟨"readings", "Reading", [⟨"Level", .float⟩]⟩
    let level : Target := .field ⟨"Level", [0]⟩
    let p : Predicate := .compare level .eq (.float (.infinite false)) .numericWiden
    let q : Predicate := .compare level .eq (.float (.infinite true)) .numericWiden
    let entity : Entity := fun slot => [.float (.infinite false)][slot]?
    (compile schema [⟨"level", ["inf"]⟩] .and).result = .ok (some p) ∧
      (compile schema [⟨"level", ["-inf"]⟩] .and).result = .ok (some q) ∧
      p.json.render = q.json.render ∧ p.holds entity = true ∧ q.holds entity = false :=
  ⟨rfl, rfl, rfl, rfl, rfl⟩

end TokenFilter
