import TokenFilter.Predicate.Evaluation

set_option autoImplicit false

namespace TokenFilter

inductive Check.Test where
  | compare (comparison : Comparison) (policy : Policy)
  | contains
  | function (fn : TextFunction)

structure Check where
  test : Check.Test
  actual : Value
  literal : Value

def Check.answer? (check : Check) : Option Bool :=
  match check.test with
  | .compare .eq policy => compareEq policy check.actual check.literal
  | .compare .gte policy => (compareOrder policy check.actual check.literal).map Ordering.isGE
  | .compare .lte policy => (compareOrder policy check.actual check.literal).map Ordering.isLE
  | .contains => check.actual.textContains .sensitive check.literal
  | .function fn => fn.test check.actual check.literal

def Scope.holdsFor (scope : Scope) (target : Target) (answer : Check → Bool) (test : Check.Test) (literal : Value) :
    Bool :=
  (scope.read target).any fun actual => answer ⟨test, actual, literal⟩

def Scope.checks (scope : Scope) (target : Target) (test : Check.Test) (literal : Value) : List Check :=
  (scope.read target).toList.map fun actual => ⟨test, actual, literal⟩

namespace Predicate

mutual
-- Every comparison that evaluation may make. Behind a guard there are none for a value that is null.
def checks (scope : Scope) : Predicate → List Check
  | .and parts => allChecks scope parts
  | .or parts => allChecks scope parts
  | .not inner => checks scope inner
  | .exists target inner =>
      (scope.read target).toList.flatMap fun value =>
        value.items.flatMap fun item => checks ⟨scope.entity, some item⟩ inner
  | .guarded target inner => if (scope.read target).any (fun value => !value.isNull) then checks scope inner else []
  | .compare target comparison value policy => scope.checks target (.compare comparison policy) value
  | .range target lower upper policy =>
      (scope.read target).toList.flatMap fun actual =>
        (lower.toList.map fun bound => ⟨.compare .gte policy, actual, bound⟩) ++
          upper.toList.map fun bound => ⟨.compare .lte policy, actual, bound⟩
  | .contains target value => scope.checks target .contains value
  | .function target fn value => scope.checks target (.function fn) value
def allChecks (scope : Scope) : List Predicate → List Check
  | [] => []
  | part :: rest => checks scope part ++ allChecks scope rest
end

mutual
def holdsBy (answer : Check → Bool) (scope : Scope) : Predicate → Bool
  | .and parts => allHoldBy answer scope parts
  | .or parts => someHoldsBy answer scope parts
  | .not inner => !holdsBy answer scope inner
  | .exists target inner =>
      (scope.read target).any fun value =>
        value.items.any fun item => holdsBy answer ⟨scope.entity, some item⟩ inner
  | .guarded target inner => (scope.read target).any (fun value => !value.isNull) && holdsBy answer scope inner
  | .compare target comparison value policy => scope.holdsFor target answer (.compare comparison policy) value
  | .range target lower upper policy =>
      (scope.read target).any fun actual =>
        (lower.all fun bound => answer ⟨.compare .gte policy, actual, bound⟩) &&
          upper.all fun bound => answer ⟨.compare .lte policy, actual, bound⟩
  | .contains target value => scope.holdsFor target answer .contains value
  | .function target fn value => scope.holdsFor target answer (.function fn) value
def allHoldBy (answer : Check → Bool) (scope : Scope) : List Predicate → Bool
  | [] => true
  | part :: rest => holdsBy answer scope part && allHoldBy answer scope rest
def someHoldsBy (answer : Check → Bool) (scope : Scope) : List Predicate → Bool
  | [] => false
  | part :: rest => holdsBy answer scope part || someHoldsBy answer scope rest
end

end Predicate

def Check.passes (check : Check) : Bool := check.answer?.getD false

theorem compare_passes (comparison : Comparison) (policy : Policy) (actual literal : Value) :
    Check.passes ⟨.compare comparison policy, actual, literal⟩ = comparison.holds policy actual literal := by
  cases comparison with
  | eq => rfl
  | gte => simp only [Check.passes, Check.answer?, Comparison.holds]; cases compareOrder policy actual literal <;> rfl
  | lte => simp only [Check.passes, Check.answer?, Comparison.holds]; cases compareOrder policy actual literal <;> rfl

theorem range_passes (scope : Scope) (target : Target) (lower upper : Option Value) (policy : Policy) :
    (Predicate.range target lower upper policy).holdsBy Check.passes scope =
      (Predicate.range target lower upper policy).holdsIn scope := by
  have above : ∀ actual, (lower.all fun bound => Check.passes ⟨.compare .gte policy, actual, bound⟩) =
      aboveLower policy actual lower := by
    intro actual
    simp only [compare_passes, aboveLower, Comparison.holds]
  have below : ∀ actual, (upper.all fun bound => Check.passes ⟨.compare .lte policy, actual, bound⟩) =
      belowUpper policy actual upper := by
    intro actual
    simp only [compare_passes, belowUpper, Comparison.holds]
  simp only [Predicate.holdsBy, Predicate.holdsIn, above, below]

namespace Predicate

mutual
theorem holds_by_passes (scope : Scope) (p : Predicate) : p.holdsBy Check.passes scope = p.holdsIn scope := by
  match p with
  | .and parts => exact all_hold_by_passes scope parts
  | .or parts => exact some_holds_by_passes scope parts
  | .not inner => simp only [holdsBy, holdsIn, holds_by_passes scope inner]
  | .exists target inner => simp only [holdsBy, holdsIn, holds_by_passes _ inner]
  | .guarded target inner => simp only [holdsBy, holdsIn, holds_by_passes scope inner]
  | .compare target comparison value policy => simp only [holdsBy, holdsIn, Scope.holdsFor, compare_passes]
  | .range target lower upper policy => exact range_passes scope target lower upper policy
  | .contains target value => rfl
  | .function target fn value => rfl
theorem all_hold_by_passes (scope : Scope) (parts : List Predicate) :
    allHoldBy Check.passes scope parts = allHold scope parts := by
  match parts with
  | [] => rfl
  | part :: rest => simp only [allHoldBy, allHold, holds_by_passes scope part, all_hold_by_passes scope rest]
theorem some_holds_by_passes (scope : Scope) (parts : List Predicate) :
    someHoldsBy Check.passes scope parts = someHolds scope parts := by
  match parts with
  | [] => rfl
  | part :: rest => simp only [someHoldsBy, someHolds, holds_by_passes scope part, some_holds_by_passes scope rest]
end

end Predicate

section Congruence

variable (answer other : Check → Bool)

theorem holds_for_congr (scope : Scope) (target : Target) (test : Check.Test) (literal : Value)
    (same : ∀ check ∈ scope.checks target test literal, answer check = other check) :
    scope.holdsFor target answer test literal = scope.holdsFor target other test literal := by
  unfold Scope.checks at same
  unfold Scope.holdsFor
  cases read : scope.read target with
  | none => rfl
  | some actual =>
      rw [read] at same
      exact same ⟨test, actual, literal⟩ (by simp)

theorem range_congr (scope : Scope) (target : Target) (lower upper : Option Value) (policy : Policy)
    (same : ∀ check ∈ (Predicate.range target lower upper policy).checks scope, answer check = other check) :
    (Predicate.range target lower upper policy).holdsBy answer scope =
      (Predicate.range target lower upper policy).holdsBy other scope := by
  simp only [Predicate.checks, Predicate.holdsBy] at same ⊢
  cases read : scope.read target with
  | none => rfl
  | some actual =>
      rw [read] at same
      cases lower <;> cases upper <;> simp_all

theorem some_item_congr (f g : Value → Bool) (items : List Value) (same : ∀ item ∈ items, f item = g item) :
    items.any f = items.any g := by
  induction items with
  | nil => rfl
  | cons item rest ih =>
      rw [List.any_cons, List.any_cons, same item List.mem_cons_self]
      rw [ih fun other member => same other (List.mem_cons_of_mem item member)]

end Congruence

namespace Predicate

mutual
theorem holds_by_congr (answer other : Check → Bool) (scope : Scope) (p : Predicate)
    (same : ∀ check ∈ p.checks scope, answer check = other check) :
    p.holdsBy answer scope = p.holdsBy other scope := by
  match p with
  | .and parts => exact all_hold_by_congr answer other scope parts same
  | .or parts => exact some_holds_by_congr answer other scope parts same
  | .not inner =>
      have here := holds_by_congr answer other scope inner same
      simp only [holdsBy, here]
  | .exists target inner =>
      simp only [checks, holdsBy] at same ⊢
      cases read : scope.read target with
      | none => rfl
      | some value =>
          rw [read] at same
          refine some_item_congr _ _ value.items ?_
          intro item member
          refine holds_by_congr answer other ⟨scope.entity, some item⟩ inner ?_
          intro check made
          exact same check (by simpa using ⟨item, member, made⟩)
  | .guarded target inner =>
      simp only [checks, holdsBy] at same ⊢
      cases guard : (scope.read target).any fun value => !value.isNull with
      | false => rfl
      | true =>
          rw [guard] at same
          exact holds_by_congr answer other scope inner same
  | .compare target comparison value policy => exact holds_for_congr answer other scope target _ value same
  | .range target lower upper policy => exact range_congr answer other scope target lower upper policy same
  | .contains target value => exact holds_for_congr answer other scope target _ value same
  | .function target fn value => exact holds_for_congr answer other scope target _ value same
theorem all_hold_by_congr (answer other : Check → Bool) (scope : Scope) (parts : List Predicate)
    (same : ∀ check ∈ allChecks scope parts, answer check = other check) :
    allHoldBy answer scope parts = allHoldBy other scope parts := by
  match parts with
  | [] => rfl
  | part :: rest =>
      simp only [allChecks, List.mem_append] at same
      have here := holds_by_congr answer other scope part fun check member => same check (.inl member)
      have others := all_hold_by_congr answer other scope rest fun check member => same check (.inr member)
      simp only [allHoldBy, here, others]
theorem some_holds_by_congr (answer other : Check → Bool) (scope : Scope) (parts : List Predicate)
    (same : ∀ check ∈ allChecks scope parts, answer check = other check) :
    someHoldsBy answer scope parts = someHoldsBy other scope parts := by
  match parts with
  | [] => rfl
  | part :: rest =>
      simp only [allChecks, List.mem_append] at same
      have here := holds_by_congr answer other scope part fun check member => same check (.inl member)
      have others := some_holds_by_congr answer other scope rest fun check member => same check (.inr member)
      simp only [someHoldsBy, here, others]
end

end Predicate

end TokenFilter
