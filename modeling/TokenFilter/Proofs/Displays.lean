import TokenFilter.Proofs.Bounds
import TokenFilter.Proofs.Legibility

set_option autoImplicit false

namespace TokenFilter

namespace Predicate

mutual
-- Each range taken apart into comparisons with its bounds, as its text shows it; a range of dates shows as itself.
def shown : Predicate → Predicate
  | .and parts => .and (allShown parts)
  | .or parts => .or (allShown parts)
  | .not inner => .not (shown inner)
  | .exists target inner => .exists target (shown inner)
  | .guarded target inner => .guarded target (shown inner)
  | .range target (some low) (some high) policy =>
    if policy = .dateTruncate then .range target (some low) (some high) policy
    else .and [.compare target .gte low policy, .compare target .lte high policy]
  | leaf => leaf
def allShown : List Predicate → List Predicate
  | [] => []
  | part :: rest => shown part :: allShown rest
end

theorem all_shown_eq (parts : List Predicate) : allShown parts = parts.map shown := by
  induction parts with
  | nil => rfl
  | cons part rest ih => rw [allShown, ih, List.map_cons]

theorem join_shown (combination : Combination) (parts : List Predicate) :
    (combination.join parts).shown = combination.join (parts.map shown) := by
  cases combination <;> simp [Combination.join, shown, all_shown_eq]

section Ranges

variable (target : Target) (low high : Value) (policy : Policy)

theorem range_shown (plain : policy ≠ .dateTruncate) :
    (range target (some low) (some high) policy).shown =
      .and [.compare target .gte low policy, .compare target .lte high policy] := by
  rw [shown, if_neg plain]

theorem range_render :
    (range target (some low) (some high) policy).shown.render = (range target (some low) (some high) policy).render := by
  by_cases dated : policy = .dateTruncate
  · rw [shown, if_pos dated]
  · have wrap : ∀ text, policy.wrap text = text := by
      intro text
      cases policy <;> first | rfl | exact absurd rfl dated
    rw [range_shown target low high policy dated]
    simp [render, renderParts, renderRange, wrap, Comparison.symbol, String.append_assoc]

theorem range_holds (scope : Scope) :
    (range target (some low) (some high) policy).shown.holdsIn scope =
      (range target (some low) (some high) policy).holdsIn scope := by
  by_cases dated : policy = .dateTruncate
  · rw [shown, if_pos dated]
  · rw [range_shown target low high policy dated, between_halves, holdsIn, allHold, allHold, allHold, Bool.and_true]

end Ranges

theorem parts_cons (between : String) (part next : Predicate) (rest : List Predicate) :
    renderParts between (part :: next :: rest) = part.render ++ between ++ renderParts between (next :: rest) := by
  rw [renderParts]
  simp

mutual
theorem shown_render (p : Predicate) : p.shown.render = p.render := by
  match p with
  | .and parts => rw [shown, render, render, parts_shown_render " AND " parts]
  | .or parts => rw [shown, render, render, parts_shown_render " OR " parts]
  | .not inner => rw [shown, render, render, shown_render inner]
  | .exists target inner => rw [shown, render, render, shown_render inner]
  | .guarded target inner => rw [shown, render, render, shown_render inner]
  | .range target (some low) (some high) policy => exact range_render target low high policy
  | .range target (some low) none policy => rfl
  | .range target none (some high) policy => rfl
  | .range target none none policy => rfl
  | .compare .. => rfl
  | .contains .. => rfl
  | .function .. => rfl
theorem parts_shown_render (between : String) (parts : List Predicate) :
    renderParts between (allShown parts) = renderParts between parts := by
  match parts with
  | [] => rfl
  | [part] => rw [allShown, allShown, renderParts, renderParts, shown_render part]
  | part :: next :: rest =>
      have later := parts_shown_render between (next :: rest)
      rw [allShown] at later
      rw [allShown, allShown, parts_cons, parts_cons, shown_render part, later]
end

mutual
theorem shown_holds (p : Predicate) (scope : Scope) : p.shown.holdsIn scope = p.holdsIn scope := by
  match p with
  | .and parts => rw [shown, holdsIn, holdsIn, all_shown_hold parts scope]
  | .or parts => rw [shown, holdsIn, holdsIn, some_shown_holds parts scope]
  | .not inner => rw [shown, holdsIn, holdsIn, shown_holds inner scope]
  | .exists target inner =>
      rw [shown, holdsIn, holdsIn]
      simp only [shown_holds inner]
  | .guarded target inner => rw [shown, holdsIn, holdsIn, shown_holds inner scope]
  | .range target (some low) (some high) policy => exact range_holds target low high policy scope
  | .range target (some low) none policy => rfl
  | .range target none (some high) policy => rfl
  | .range target none none policy => rfl
  | .compare .. => rfl
  | .contains .. => rfl
  | .function .. => rfl
theorem all_shown_hold (parts : List Predicate) (scope : Scope) :
    allHold scope (allShown parts) = allHold scope parts := by
  match parts with
  | [] => rfl
  | part :: rest => rw [allShown, allHold, allHold, shown_holds part scope, all_shown_hold rest scope]
theorem some_shown_holds (parts : List Predicate) (scope : Scope) :
    someHolds scope (allShown parts) = someHolds scope parts := by
  match parts with
  | [] => rfl
  | part :: rest => rw [allShown, someHolds, someHolds, shown_holds part scope, some_shown_holds rest scope]
end

end Predicate

section Shapes

variable (schema : Schema) (legible : schema.Legible) {around : Option Kind} {target : Target} {kind : Kind}
  (looks : target.Looks schema around kind)

section Tokens

include looks

theorem leaf_stated (token : Token) (p : Predicate) (shape : LeafShape kind target token p) :
    p.shown.Stated schema around := by
  cases shape with
  | contains textual read => exact .contains looks _
  | function textual => exact .function looks _ _
  | equal plain read => exact .compare .eq looks plain read
  | atLeast ranged read => exact .compare .gte looks (ranged_not_text kind ranged) read
  | atMost ranged read => exact .compare .lte looks (ranged_not_text kind ranged) read
  | @between _ _ low high ranged readLow readHigh =>
      have plain := ranged_not_text kind ranged
      by_cases dated : Policy.ofKind kind = .dateTruncate
      · rw [dated]
        exact .range looks plain dated readLow readHigh
      · rw [Predicate.range_shown target low high _ dated]
        refine .joined .and (by simp) ?_
        intro part member
        rcases List.mem_pair.mp member with rfl | rfl
        · exact .compare .gte looks plain readLow
        · exact .compare .lte looks plain readHigh

theorem token_stated (levels : Nat) (token : Token) (p : Predicate) (shape : TokenShape kind target levels token p) :
    p.shown.Stated schema around := by
  induction shape with
  | @leaf token leaf shape =>
      have stated := leaf_stated schema looks token leaf shape
      cases kind.isNullable with
      | true => exact .guarded looks stated
      | false => exact stated
  | not inner ih => exact .not ih

end Tokens

theorem joined_stated {α : Type} {shape : α → Predicate → Prop} {as : List α} {p : Predicate} (combination : Combination)
    (joined : Joined combination.join shape as p)
    (each : ∀ a ∈ as, ∀ q, shape a q → q.shown.Stated schema around) : p.shown.Stated schema around := by
  refine joined_parts (fun q => q.shown.Stated schema around) (fun q => q.shown.Stated schema around) joined each
    (fun _ stated => stated) ?_
  intro parts several stated
  rw [Predicate.join_shown]
  refine .joined combination (by simpa using several) ?_
  intro part member
  obtain ⟨q, inside, rfl⟩ := List.mem_map.mp member
  exact stated q inside

include looks in
theorem alternatives_stated (tokens : List Token) (p : Predicate) (shape : Alternatives kind target tokens p) :
    p.shown.Stated schema around := by
  refine joined_stated schema .or shape ?_
  intro token _ q built
  obtain ⟨levels, _, shape⟩ := built
  exact token_stated schema looks levels token q shape

include legible

theorem entry_stated (entry : Entry) (p : Predicate) (shape : schema.EntryShape entry p) :
    p.shown.Stated schema none := by
  obtain ⟨reading, read, shape⟩ := shape
  have looks := Target.Looks.field ((read_entry_ok_iff schema entry reading).mp read).1
  cases shape with
  | scalar plain tokens => exact alternatives_stated schema looks _ p tokens
  | @collection item inner items tokens =>
      have itemLegible := item_legible _ item items (looks_legible legible looks)
      exact .exists looks items (alternatives_stated schema (.item itemLegible) _ inner tokens)

theorem compile_stated (query : Query) (combination : Combination) (p : Predicate)
    (compiled : (compile schema query combination).result = .ok (some p)) : p.shown.Stated schema none :=
  joined_stated schema combination (compile_shaped schema query combination p compiled)
    fun entry _ q shape => entry_stated schema legible entry q shape

end Shapes

-- Two compiled predicates have one text just if they are the same but for ranges that one of them spells out, and then
-- they hold for the same entities.
theorem compile_displayed (schema : Schema) (legible : schema.Legible) (query other : Query)
    (combination combination' : Combination) (p q : Predicate)
    (compiled : (compile schema query combination).result = .ok (some p))
    (compiled' : (compile schema other combination').result = .ok (some q)) :
    (p.render = q.render ↔ p.shown = q.shown) ∧ (p.render = q.render → ∀ entity, p.holds entity = q.holds entity) := by
  have stated := compile_stated schema legible query combination p compiled
  have stated' := compile_stated schema legible other combination' q compiled'
  have told : p.render = q.render → p.shown = q.shown := by
    intro same
    apply Predicate.stated_render_inj legible p.shown q.shown stated stated'
    rw [p.shown_render, q.shown_render, same]
  refine ⟨⟨told, ?_⟩, ?_⟩
  · intro same
    rw [← p.shown_render, same, q.shown_render]
  · intro same entity
    rw [Predicate.holds, Predicate.holds, ← p.shown_holds, told same, q.shown_holds]

theorem compile_displayed_of_people :
    let home : Schema := ⟨"homes", "Home", [⟨"Größe", .float⟩, ⟨"r#type", .list (.enumeration ⟨"sorts", ["Flat", "House"]⟩)⟩]⟩
    let schema : Schema := ⟨"people", "Person", [⟨"Age", .int⟩, ⟨"Home", .nullable (.record home)⟩,
      ⟨"Plan", .nullable (.keyed ⟨"plans", .int, [⟨"Free", .int 0⟩, ⟨"Paid", .int 1⟩]⟩)⟩]⟩
    let age : Target := .field ⟨"Age", [0]⟩
    let between : Predicate := .range age (some (.int 18)) (some (.int 65)) .numericWiden
    let both : Predicate := .and [.compare age .gte (.int 18) .numericWiden, .compare age .lte (.int 65) .numericWiden]
    schema.Legible ∧
      (compile schema [⟨"age", ["18&65"]⟩] .or).result = .ok (some between) ∧
      (compile schema [⟨"age", ["18&"]⟩, ⟨"AGE ", ["&65"]⟩] .and).result = .ok (some both) ∧
      between.render = "(Age >= 18 AND Age <= 65)" ∧ both.render = "(Age >= 18 AND Age <= 65)" ∧
      ∀ entity, between.holds entity = both.holds entity := by
  intro home schema age between both
  have identifiers : ∀ name ∈ ["Age", "Home", "Größe", "r#type", "Flat", "House", "Plan", "Free", "Paid"],
      Text.Identifier name := by decide
  have legible : schema.Legible := by
    simp only [List.forall_mem_cons] at identifiers
    obtain ⟨age, home, size, type, flat, house, plan, free, paid, _⟩ := identifiers
    exact ⟨age, trivial, home, ⟨size, trivial, type, ⟨by simp [flat, house], by decide⟩, trivial⟩,
      plan, ⟨by simp [free, paid], by decide⟩, trivial⟩
  have one : (compile schema [⟨"age", ["18&65"]⟩] .or).result = .ok (some between) := rfl
  have two : (compile schema [⟨"age", ["18&"]⟩, ⟨"AGE ", ["&65"]⟩] .and).result = .ok (some both) := rfl
  obtain ⟨texts, holds⟩ := compile_displayed schema legible _ _ .or .and between both one two
  have same : between.render = both.render := texts.mpr rfl
  have text : both.render = "(Age >= 18 AND Age <= 65)" := rfl
  exact ⟨legible, one, two, same.trans text, text, holds same⟩

-- Members that share a name are shown alike, though tokens tell them apart by their keys.
example :
    let schema : Schema :=
      ⟨"people", "Person", [⟨"Plan", .keyed ⟨"plans", .int, [⟨"Paid", .int 1⟩, ⟨"Paid", .int 2⟩]⟩⟩]⟩
    let paid (key : Int64) : Value := .keyed "plans" "Paid" (.int key)
    let plan (key : Int64) : Predicate := .compare (.field ⟨"Plan", [0]⟩) .eq (paid key) .strict
    (compile schema [⟨"plan", ["1"]⟩] .and).result = .ok (some (plan 1)) ∧
      (compile schema [⟨"plan", ["2"]⟩] .and).result = .ok (some (plan 2)) ∧
      (plan 1).render = (plan 2).render ∧ (plan 1).holds (fun _ => some (paid 1)) = true ∧
      (plan 2).holds (fun _ => some (paid 1)) = false := ⟨rfl, rfl, rfl, rfl, rfl⟩

end TokenFilter
