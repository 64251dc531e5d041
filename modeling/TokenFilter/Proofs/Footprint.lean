import TokenFilter.Predicate.Evaluation
import Mathlib.Data.List.Induction

set_option autoImplicit false

namespace TokenFilter

namespace Predicate

def target? : Predicate → Option Target
  | .and _ | .or _ | .not _ => none
  | .exists target _ | .guarded target _ => some target
  | .compare target _ _ _ | .range target _ _ _ => some target
  | .contains target _ | .function target _ _ => some target

def ownField? (node : Predicate) : Option FieldRef :=
  match node.target? with
  | some (.field ref) => some ref
  | _ => none

mutual
def nodes : Predicate → List Predicate
  | .and parts => .and parts :: allNodes parts
  | .or parts => .or parts :: allNodes parts
  | .not inner => .not inner :: nodes inner
  | .exists target inner => .exists target inner :: nodes inner
  | .guarded target inner => .guarded target inner :: nodes inner
  | .compare target comparison value policy => [.compare target comparison value policy]
  | .range target lower upper policy => [.range target lower upper policy]
  | .contains target value => [.contains target value]
  | .function target fn value => [.function target fn value]
def allNodes : List Predicate → List Predicate
  | [] => []
  | part :: rest => nodes part ++ allNodes rest
end

def firstNode (p : Predicate) (ref : FieldRef) : Nat := p.nodes.findIdx fun node => node.ownField? == some ref

theorem own_field_iff (node : Predicate) (ref : FieldRef) :
    node.ownField? = some ref ↔ node.target? = some (.field ref) := by
  unfold ownField?
  split
  · rename_i found
    simp [found]
  · rename_i other
    constructor
    · intro missing
      cases missing
    · intro found
      exact absurd found (other ref)

theorem target_fields (target : Target) (node : Predicate) (looks : node.target? = some target)
    (rest : List Predicate) : (node :: rest).filterMap ownField? = target.fields ++ rest.filterMap ownField? := by
  cases target <;> simp [ownField?, looks, Target.fields]

mutual
theorem mentions_nodes (p : Predicate) : p.mentions = p.nodes.filterMap ownField? := by
  match p with
  | .and parts => exact all_mentions_nodes parts
  | .or parts => exact all_mentions_nodes parts
  | .not inner => exact mentions_nodes inner
  | .exists target inner => rw [mentions, nodes, target_fields target _ rfl, mentions_nodes inner]
  | .guarded target inner => rw [mentions, nodes, target_fields target _ rfl, mentions_nodes inner]
  | .compare target _ _ _ => rw [mentions, nodes, target_fields target _ rfl, List.filterMap_nil, List.append_nil]
  | .range target _ _ _ => rw [mentions, nodes, target_fields target _ rfl, List.filterMap_nil, List.append_nil]
  | .contains target _ => rw [mentions, nodes, target_fields target _ rfl, List.filterMap_nil, List.append_nil]
  | .function target _ _ => rw [mentions, nodes, target_fields target _ rfl, List.filterMap_nil, List.append_nil]
theorem all_mentions_nodes (parts : List Predicate) : allMentions parts = (allNodes parts).filterMap ownField? := by
  match parts with
  | [] => rfl
  | part :: rest =>
      rw [allMentions, allNodes, List.filterMap_append, mentions_nodes part, all_mentions_nodes rest]
end

end Predicate

section FirstPlaces

variable {α β : Type} [BEq β] [LawfulBEq β] (f : α → Option β)

theorem dedup_seen (bs : List β) (b : β) (seen : b ∈ bs) : (bs ++ [b]).eraseDups = bs.eraseDups := by
  simp [List.eraseDups_append, List.removeAll, seen]

theorem dedup_new (bs : List β) (b : β) (unseen : b ∉ bs) : (bs ++ [b]).eraseDups = bs.eraseDups ++ [b] := by
  simp [List.eraseDups_append, List.removeAll, List.eraseDups_cons, unseen]

theorem place_before (xs : List α) (b : β) :
    xs.findIdx (fun y => f y == some b) < xs.length ↔ b ∈ xs.filterMap f := by
  simp [List.findIdx_lt_length]

theorem place_kept (xs : List α) (x : α) (b : β) (seen : b ∈ xs.filterMap f) :
    (xs ++ [x]).findIdx (fun y => f y == some b) = xs.findIdx fun y => f y == some b := by
  rw [List.findIdx_append, if_pos ((place_before f xs b).mpr seen)]

theorem place_new (xs : List α) (x : α) (b : β) (unseen : b ∉ xs.filterMap f) :
    xs.length ≤ (xs ++ [x]).findIdx fun y => f y == some b := by
  rw [List.findIdx_append, if_neg ((place_before f xs b).not.mpr unseen)]
  exact Nat.le_add_left _ _

theorem dedup_first (xs : List α) :
    (xs.filterMap f).eraseDups.Pairwise fun a b =>
      xs.findIdx (fun y => f y == some a) < xs.findIdx fun y => f y == some b := by
  induction xs using List.reverseRecOn with
  | nil => exact List.Pairwise.nil
  | append_singleton xs x ih =>
      have kept : (xs.filterMap f).eraseDups.Pairwise fun a b =>
          (xs ++ [x]).findIdx (fun y => f y == some a) < (xs ++ [x]).findIdx fun y => f y == some b := by
        refine ih.imp_of_mem ?_
        intro a b first second earlier
        rw [place_kept f xs x a (List.mem_eraseDups.mp first), place_kept f xs x b (List.mem_eraseDups.mp second)]
        exact earlier
      rw [List.filterMap_append]
      cases named : f x with
      | none => simpa [named] using kept
      | some b =>
          have last : [x].filterMap f = [b] := by simp [named]
          rw [last]
          by_cases seen : b ∈ xs.filterMap f
          · rw [dedup_seen _ b seen]
            exact kept
          · rw [dedup_new _ b seen]
            refine List.pairwise_append.mpr ⟨kept, List.pairwise_singleton _ b, ?_⟩
            intro a earlier c here
            obtain rfl := List.mem_singleton.mp here
            have listed := List.mem_eraseDups.mp earlier
            rw [place_kept f xs x a listed]
            exact Nat.lt_of_lt_of_le ((place_before f xs a).mpr listed) (place_new f xs x c seen)

end FirstPlaces

def SameAnswers (entity other : Entity) (refs : List FieldRef) : Prop :=
  ∀ ref ∈ refs, entity.read ref.slots = other.read ref.slots

section Answers

variable {entity other : Entity}

theorem same_answers_append (refs more : List FieldRef) :
    SameAnswers entity other (refs ++ more) ↔ SameAnswers entity other refs ∧ SameAnswers entity other more :=
  List.forall_mem_append

theorem read_same (item : Option Value) (target : Target) (same : SameAnswers entity other target.fields) :
    Scope.read ⟨entity, item⟩ target = Scope.read ⟨other, item⟩ target := by
  cases target with
  | field ref => exact same ref List.mem_cons_self
  | item => rfl

namespace Predicate

-- Within an `exists` only the item changes, and the fields are still those of the entity.
mutual
theorem holds_same (item : Option Value) (p : Predicate) (same : SameAnswers entity other p.mentions) :
    p.holdsIn ⟨entity, item⟩ = p.holdsIn ⟨other, item⟩ := by
  match p with
  | .and parts => exact all_hold_same item parts same
  | .or parts => exact some_holds_same item parts same
  | .not inner => rw [holdsIn, holdsIn, holds_same item inner same]
  | .exists target inner =>
      obtain ⟨here, below⟩ := (same_answers_append _ _).mp same
      have each : ∀ value : Option Value, inner.holdsIn ⟨entity, value⟩ = inner.holdsIn ⟨other, value⟩ :=
        fun value => holds_same value inner below
      simp only [holdsIn, read_same item target here, each]
  | .guarded target inner =>
      obtain ⟨here, below⟩ := (same_answers_append _ _).mp same
      rw [holdsIn, holdsIn, read_same item target here, holds_same item inner below]
  | .compare target _ _ _ => rw [holdsIn, holdsIn, read_same item target same]
  | .range target _ _ _ => rw [holdsIn, holdsIn, read_same item target same]
  | .contains target _ => rw [holdsIn, holdsIn, read_same item target same]
  | .function target _ _ => rw [holdsIn, holdsIn, read_same item target same]
theorem all_hold_same (item : Option Value) (parts : List Predicate)
    (same : SameAnswers entity other (allMentions parts)) :
    allHold ⟨entity, item⟩ parts = allHold ⟨other, item⟩ parts := by
  match parts with
  | [] => rfl
  | part :: rest =>
      obtain ⟨here, others⟩ := (same_answers_append _ _).mp same
      rw [allHold, allHold, holds_same item part here, all_hold_same item rest others]
theorem some_holds_same (item : Option Value) (parts : List Predicate)
    (same : SameAnswers entity other (allMentions parts)) :
    someHolds ⟨entity, item⟩ parts = someHolds ⟨other, item⟩ parts := by
  match parts with
  | [] => rfl
  | part :: rest =>
      obtain ⟨here, others⟩ := (same_answers_append _ _).mp same
      rw [someHolds, someHolds, holds_same item part here, some_holds_same item rest others]
end

end Predicate

end Answers

namespace Predicate

theorem fields_first (p : Predicate) :
    p.fields.Pairwise fun first second => p.firstNode first < p.firstNode second := by
  rw [fields, mentions_nodes]
  exact dedup_first ownField? p.nodes

theorem mem_fields_iff (p : Predicate) (ref : FieldRef) :
    ref ∈ p.fields ↔ ∃ node ∈ p.nodes, node.target? = some (.field ref) := by
  rw [fields, List.mem_eraseDups, mentions_nodes, List.mem_filterMap]
  simp only [own_field_iff]

end Predicate

-- Entities that answer alike for the fields of a predicate are alike to it. The fields are those that some
-- node looks at, each listed once, before the fields that only later nodes look at.
theorem fields_footprint (p : Predicate) :
    (∀ entity other : Entity, (∀ ref ∈ p.fields, entity.read ref.slots = other.read ref.slots) →
      p.holds entity = p.holds other) ∧
    p.fields.Nodup ∧
    (∀ ref, ref ∈ p.fields ↔ ∃ node ∈ p.nodes, node.target? = some (.field ref)) ∧
    p.fields.Pairwise fun first second => p.firstNode first < p.firstNode second := by
  refine ⟨?_, ?_, p.mem_fields_iff, p.fields_first⟩
  · intro entity other same
    refine p.holds_same none ?_
    intro ref mentioned
    exact same ref (List.mem_eraseDups.mpr mentioned)
  · refine p.fields_first.imp ?_
    intro first second earlier eq
    exact absurd earlier (by simp [eq])

theorem fields_footprint_of_people :
    let age : FieldRef := ⟨"Age", [0]⟩
    let tags : FieldRef := ⟨"Tags", [1]⟩
    let city : FieldRef := ⟨"Home.City", [2, 0]⟩
    let p : Predicate := .and
      [.exists (.field tags) (.or [.contains .item (.text "a"), .compare (.field city) .eq (.text "Oslo") .strict]),
        .not (.guarded (.field age) (.compare (.field age) .gte (.int 18) .numericWiden)),
        .function (.field city) .equals (.text "oslo")]
    let entity : Entity := fun slot => [.int 17, .list [.null], .record [.text "Oslo", .null], .null][slot]?
    let other : Entity := fun slot => [.int 17, .list [.null], .record [.text "Oslo"]][slot]?
    (∀ ref ∈ p.fields, entity.read ref.slots = other.read ref.slots) ∧ p.fields = [tags, city, age] ∧
      p.holds entity = true ∧ p.holds entity = p.holds other := by
  intro age tags city p entity other
  have fields : p.fields = [tags, city, age] := by decide
  have same : ∀ ref ∈ p.fields, entity.read ref.slots = other.read ref.slots := by
    rw [fields]
    intro ref member
    simp only [List.mem_cons, List.not_mem_nil, or_false] at member
    rcases member with rfl | rfl | rfl <;> rfl
  exact ⟨same, fields, by decide, (fields_footprint p).1 entity other same⟩

end TokenFilter
