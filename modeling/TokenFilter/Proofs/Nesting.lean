import TokenFilter.Proofs.Shape

set_option autoImplicit false

namespace TokenFilter

def Target.isItem : Target → Bool
  | .field _ => false
  | .item => true

def Value.IsScalar : Value → Prop
  | .null => False
  | .list _ => False
  | .record _ => False
  | _ => True

namespace Predicate

-- Outside an `exists` only fields are read, and inside one only its items, so that none stands in
-- another. Nodes that join parts have several, and literals are scalars.
mutual
def WellFormed (inside : Bool) : Predicate → Prop
  | .and parts => 2 ≤ parts.length ∧ AllWellFormed inside parts
  | .or parts => 2 ≤ parts.length ∧ AllWellFormed inside parts
  | .not inner => WellFormed inside inner
  | .exists target inner => inside = false ∧ target.isItem = false ∧ WellFormed true inner
  | .guarded target inner => target.isItem = inside ∧ WellFormed inside inner
  | .compare target _ value _ => target.isItem = inside ∧ value.IsScalar
  | .range target lower upper _ =>
      target.isItem = inside ∧ (∀ low ∈ lower, low.IsScalar) ∧ ∀ high ∈ upper, high.IsScalar
  | .contains target value => target.isItem = inside ∧ value.IsScalar
  | .function target _ value => target.isItem = inside ∧ value.IsScalar
def AllWellFormed (inside : Bool) : List Predicate → Prop
  | [] => True
  | part :: rest => WellFormed inside part ∧ AllWellFormed inside rest
end

mutual
def depth : Predicate → Nat
  | .and parts => allDepth parts + 1
  | .or parts => allDepth parts + 1
  | .not inner => depth inner + 1
  | .exists _ inner => depth inner + 1
  | .guarded _ inner => depth inner + 1
  | .compare _ _ _ _ => 1
  | .range _ _ _ _ => 1
  | .contains _ _ => 1
  | .function _ _ _ => 1
def allDepth : List Predicate → Nat
  | [] => 0
  | part :: rest => max (depth part) (allDepth rest)
end

theorem all_well_formed_iff (inside : Bool) (parts : List Predicate) :
    AllWellFormed inside parts ↔ ∀ part ∈ parts, WellFormed inside part := by
  induction parts with
  | nil => simp [AllWellFormed]
  | cons part rest ih => simp [AllWellFormed, ih]

theorem all_depth_le_iff (parts : List Predicate) (bound : Nat) :
    allDepth parts ≤ bound ↔ ∀ part ∈ parts, depth part ≤ bound := by
  induction parts with
  | nil => simp [allDepth]
  | cons part rest ih => simp only [allDepth, Nat.max_le, List.forall_mem_cons, ih]

end Predicate

theorem scalar_is_scalar (kind : Kind) (value : Value) (scalar : ScalarOf kind value) : value.IsScalar := by
  cases scalar <;> trivial

theorem literal_is_scalar (kind : Kind) (cs : List Char) (value : Value) (read : kind.readLiteral cs = .ok value) :
    value.IsScalar :=
  scalar_is_scalar kind.nonNull value (read_literal_scalar kind cs value read)

theorem join_well_formed (combination : Combination) (inside : Bool) (parts : List Predicate) :
    (combination.join parts).WellFormed inside ↔ 2 ≤ parts.length ∧ Predicate.AllWellFormed inside parts := by
  cases combination <;> exact Iff.rfl

theorem join_depth (combination : Combination) (parts : List Predicate) :
    (combination.join parts).depth = Predicate.allDepth parts + 1 := by
  cases combination <;> rfl

section Joined

variable {α : Type} {shape : α → Predicate → Prop}

theorem joined_well_formed (combination : Combination) (inside : Bool) (as : List α) (p : Predicate)
    (joined : Joined combination.join shape as p) (each : ∀ a q, shape a q → q.WellFormed inside) :
    p.WellFormed inside := by
  refine joined_parts _ _ joined (fun a _ q => each a q) (fun q here => here) ?_
  intro parts several shaped
  rw [join_well_formed, Predicate.all_well_formed_iff]
  exact ⟨several, shaped⟩

theorem joined_depth (combination : Combination) (bound : Nat) (as : List α) (p : Predicate)
    (joined : Joined combination.join shape as p) (each : ∀ a q, shape a q → q.depth ≤ bound) :
    p.depth ≤ bound + 1 := by
  refine joined_parts (fun q => q.depth ≤ bound) (fun q => q.depth ≤ bound + 1) joined (fun a _ q => each a q) ?_ ?_
  · intro q here
    exact Nat.le_succ_of_le here
  · intro parts _ shaped
    have below := (Predicate.all_depth_le_iff parts bound).mpr shaped
    rw [join_depth]
    exact Nat.succ_le_succ below

end Joined

theorem leaf_well_formed (kind : Kind) (target : Target) (token : Token) (leaf : Predicate)
    (shape : LeafShape kind target token leaf) : leaf.WellFormed target.isItem := by
  cases shape with
  | contains textual read => exact ⟨rfl, trivial⟩
  | function textual => exact ⟨rfl, trivial⟩
  | equal other read => exact ⟨rfl, literal_is_scalar kind _ _ read⟩
  | atLeast ranged read => exact ⟨rfl, literal_is_scalar kind _ _ read⟩
  | atMost ranged read => exact ⟨rfl, literal_is_scalar kind _ _ read⟩
  | @between lower upper low high ranged readLow readHigh =>
      refine ⟨rfl, ?_, ?_⟩
      · intro bound here
        cases here
        exact literal_is_scalar kind lower low readLow
      · intro bound here
        cases here
        exact literal_is_scalar kind upper high readHigh

theorem leaf_depth (kind : Kind) (target : Target) (token : Token) (leaf : Predicate)
    (shape : LeafShape kind target token leaf) : leaf.depth = 1 := by
  cases shape <;> rfl

theorem token_well_formed (kind : Kind) (target : Target) (levels : Nat) (token : Token) (p : Predicate)
    (shape : TokenShape kind target levels token p) : p.WellFormed target.isItem := by
  induction shape with
  | @leaf token leaf shape =>
      have here := leaf_well_formed kind target token leaf shape
      split
      · exact ⟨rfl, here⟩
      · exact here
  | not inner ih => exact ih

theorem token_depth (kind : Kind) (target : Target) (levels : Nat) (token : Token) (p : Predicate)
    (shape : TokenShape kind target levels token p) : p.depth ≤ levels + 2 := by
  induction shape with
  | @leaf token leaf shape =>
      have here := leaf_depth kind target token leaf shape
      split
      · simp [Predicate.depth, here]
      · simp [here]
  | not inner ih =>
      rw [Predicate.depth]
      omega

theorem alternatives_well_formed (kind : Kind) (target : Target) (tokens : List Token) (p : Predicate)
    (shape : Alternatives kind target tokens p) : p.WellFormed target.isItem := by
  refine joined_well_formed .or _ tokens p shape ?_
  intro token q shaped
  obtain ⟨levels, _, tokenShape⟩ := shaped
  exact token_well_formed kind target levels token q tokenShape

theorem alternatives_depth (kind : Kind) (target : Target) (tokens : List Token) (p : Predicate)
    (shape : Alternatives kind target tokens p) : p.depth ≤ Token.negationLimit + 3 := by
  refine joined_depth .or _ tokens p shape ?_
  intro token q shaped
  obtain ⟨levels, bound, tokenShape⟩ := shaped
  have here := token_depth kind target levels token q tokenShape
  omega

theorem entry_well_formed (schema : Schema) (entry : Entry) (p : Predicate) (shape : schema.EntryShape entry p) :
    p.WellFormed false := by
  obtain ⟨reading, _, shaped⟩ := shape
  cases shaped with
  | scalar plain tokens => exact alternatives_well_formed _ _ _ p tokens
  | collection items tokens => exact ⟨rfl, rfl, alternatives_well_formed _ _ _ _ tokens⟩

theorem entry_depth (schema : Schema) (entry : Entry) (p : Predicate) (shape : schema.EntryShape entry p) :
    p.depth ≤ Token.negationLimit + 4 := by
  obtain ⟨reading, _, shaped⟩ := shape
  cases shaped with
  | scalar plain tokens => exact Nat.le_succ_of_le (alternatives_depth _ _ _ p tokens)
  | collection items tokens => exact Nat.succ_le_succ (alternatives_depth _ _ _ _ tokens)

theorem policy_of_kind (kind : Kind) :
    (Policy.ofKind kind = .dateTruncate ↔ kind.nonNull = .dateTime) ∧
      (Policy.ofKind kind = .numericWiden ↔ kind.isNumeric = true) ∧
      (Policy.ofKind kind = .strict ↔ kind.nonNull ≠ .dateTime ∧ kind.isNumeric = false) := by
  unfold Policy.ofKind Kind.isNumeric
  generalize kind.nonNull = inner
  cases inner <;> simp

-- A compiled predicate has one part for each contributing entry and is at most 37 nodes deep: two
-- joining nodes, one `exists`, 32 negations, one guard and a leaf.
theorem compile_shape (schema : Schema) (query : Query) (combination : Combination) (p : Predicate)
    (compiled : (compile schema query combination).result = .ok (some p)) :
    Joined combination.join schema.EntryShape (query.filter schema.contributes) p ∧
      p.WellFormed false ∧ p.depth ≤ 37 := by
  have shape := compile_shaped schema query combination p compiled
  have formed := joined_well_formed combination false _ p shape (entry_well_formed schema)
  have depth := joined_depth combination 36 _ p shape (entry_depth schema)
  exact ⟨shape, formed, depth⟩

theorem compile_shape_of_people :
    let schema : Schema := ⟨"people", "Person",
      [⟨"Age", .nullable .int⟩, ⟨"Tags", .list .text⟩, ⟨"Born", .date⟩, ⟨"Seen", .nullable .dateTime⟩]⟩
    let query : Query := [⟨"age", ["not(18&30)", "old"]⟩, ⟨"tags", ["a", "startsWith(b)"]⟩, ⟨"born", ["2024-01-02"]⟩,
      ⟨"seen", ["2024-01-02&"]⟩]
    let day : Calendar.Date := ⟨2024, 1, 2, by decide, by decide, by decide, by decide, by decide, by decide⟩
    let age : Target := .field ⟨"Age", [0]⟩
    let seen : Target := .field ⟨"Seen", [3]⟩
    let p : Predicate := .and
      [.not (.guarded age (.range age (some (.int 18)) (some (.int 30)) .numericWiden)),
        .exists (.field ⟨"Tags", [1]⟩) (.or [.contains .item (.text "a"), .function .item .startsWith (.text "b")]),
        .compare (.field ⟨"Born", [2]⟩) .eq (.date day) .strict,
        .guarded seen (.compare seen .gte (.dateTime ⟨day, .midnight⟩) .dateTruncate)]
    (compile schema query .and).result = .ok (some p) ∧
      Joined Combination.and.join schema.EntryShape (query.filter schema.contributes) p ∧
      p.WellFormed false ∧ p.depth ≤ 37 :=
  ⟨rfl, compile_shape _ _ _ _ rfl⟩

end TokenFilter
