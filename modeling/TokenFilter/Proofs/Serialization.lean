import TokenFilter.Predicate.Printer
import TokenFilter.Proofs.FloatTexts
import TokenFilter.Proofs.JsonText
import TokenFilter.Proofs.Literals
import TokenFilter.Proofs.ScalarTexts

set_option autoImplicit false

namespace TokenFilter

-- NaN stands for every float that is not finite.
def Binary.masked {f : Binary.Format} (x : Binary f) : Binary f := if x.isFinite then x else .nan

namespace Value

mutual
def masked : Value → Value
  | .bool b => .bool b
  | .keyed path member key => .keyed path member key
  | .date d => .date d
  | .dateTime d => .dateTime d
  | .dateTimeOffset d => .dateTimeOffset d
  | .decimal d => .decimal d
  | .enumeration path variant => .enumeration path variant
  | .float x => .float x.masked
  | .guid g => .guid g
  | .int n => .int n
  | .list items => .list (allMasked items)
  | .null => .null
  | .record fields => .record (allMasked fields)
  | .text s => .text s
  | .uint n => .uint n
def allMasked : List Value → List Value
  | [] => []
  | value :: rest => masked value :: allMasked rest
end

mutual
def isFinite : Value → Bool
  | .float x => x.isFinite
  | .list items => allFinite items
  | .record fields => allFinite fields
  | _ => true
def allFinite : List Value → Bool
  | [] => true
  | value :: rest => isFinite value && allFinite rest
end

end Value

namespace Predicate

mutual
def masked : Predicate → Predicate
  | .and parts => .and (allMasked parts)
  | .or parts => .or (allMasked parts)
  | .not inner => .not (masked inner)
  | .exists target inner => .exists target (masked inner)
  | .guarded target inner => .guarded target (masked inner)
  | .compare target comparison value policy => .compare target comparison value.masked policy
  | .range target lower upper policy => .range target (lower.map Value.masked) (upper.map Value.masked) policy
  | .contains target value => .contains target value.masked
  | .function target fn value => .function target fn value.masked
def allMasked : List Predicate → List Predicate
  | [] => []
  | part :: rest => masked part :: allMasked rest
end

section Literals

variable (test : Value → Bool)

mutual
def everyLiteral : Predicate → Bool
  | .and parts => allLiterals parts
  | .or parts => allLiterals parts
  | .not inner => everyLiteral inner
  | .exists _ inner => everyLiteral inner
  | .guarded _ inner => everyLiteral inner
  | .compare _ _ value _ => test value
  | .range _ lower upper _ => lower.all test && upper.all test
  | .contains _ value => test value
  | .function _ _ value => test value
def allLiterals : List Predicate → Bool
  | [] => true
  | part :: rest => everyLiteral part && allLiterals rest
end

end Literals

def isFinite : Predicate → Bool := everyLiteral Value.isFinite

-- Every time in a literal is told by its text.
def isWritten : Predicate → Bool := everyLiteral Value.isWritten

end Predicate

section Floats

theorem masked_finite (x : Binary64) (finite : x.isFinite = true) : x.masked = x := if_pos finite

theorem finite_masked (x : Binary64) : x.masked.isFinite = x.isFinite := by
  unfold Binary.masked
  cases finite : x.isFinite with
  | false => rfl
  | true => exact finite

theorem float_json_masked (x : Binary64) : Value.floatJson x.masked = Value.floatJson x := by
  unfold Binary.masked
  cases finite : x.isFinite with
  | false =>
      unfold Value.floatJson
      rw [finite]
      rfl
  | true => rfl

theorem float_json_told (x y : Binary64) (same : Value.floatJson x = Value.floatJson y) : x.masked = y.masked := by
  unfold Value.floatJson at same
  unfold Binary.masked
  cases finite : x.isFinite <;> cases finite' : y.isFinite <;> simp only [finite, finite'] at same ⊢
  · rfl
  · cases same
  · cases same
  · have texts := String.ofList_injective (Json.number.inj same)
    exact Binary.finite_inj .json .double (by decide) x y finite finite' texts

theorem float_json_proper (x : Binary64) : (Value.floatJson x).Proper := by
  unfold Value.floatJson
  cases finite : x.isFinite with
  | false => trivial
  | true =>
      have sorts := Binary.finite_sorts .json x finite
      rw [← String.toList_ofList (l := Binary.Style.json.chars x)] at sorts
      exact sorts

end Floats

section Numbers

theorem int_json_told (a b : Int) (same : Json.ofInt a = Json.ofInt b) : a = b :=
  Integer.chars_inj a b (String.ofList_injective (Json.number.inj same))

theorem int_json_proper (n : Int) : (Json.ofInt n).Proper := by
  have sorts : ∀ c ∈ Integer.chars n, Text.isNumeral c = true := by
    intro c member
    rcases Integer.chars_sorts n c member with rfl | digit
    · rfl
    · exact Text.digit_numeral c digit
  have both := And.intro (Integer.chars_not_nil n) sorts
  rw [← String.toList_ofList (l := Integer.chars n)] at both
  exact both

theorem content_inj (name : String) (a b : Json) (same : Json.tagged name a = Json.tagged name b) : a = b := by
  unfold Json.tagged at same
  simpa using same

theorem string_inj (name : String) (as bs : List Char)
    (same : Json.tagged name (.string (String.ofList as)) = Json.tagged name (.string (String.ofList bs))) : as = bs :=
  String.ofList_injective (Json.string.inj (content_inj name _ _ same))

theorem key_json_told (a b : Key) (same : a.json = b.json) : a = b := by
  cases a with
  | int n =>
      cases b with
      | int m => exact congrArg Key.int (Int64.toInt_inj.mp (int_json_told _ _ (content_inj "Int" _ _ same)))
      | text t => simp [Key.json, Json.tagged] at same
  | text s =>
      cases b with
      | int m => simp [Key.json, Json.tagged] at same
      | text t => exact congrArg Key.text (Json.string.inj (content_inj "Text" _ _ same))

end Numbers

namespace Value

mutual
theorem json_masked (value : Value) : value.masked.json = value.json := by
  match value with
  | .float x => rw [masked, json, json, float_json_masked]
  | .list items => rw [masked, json, json, jsons_masked items]
  | .record fields => rw [masked, json, json, jsons_masked fields]
  | .bool _ | .keyed _ _ _ | .date _ | .dateTime _ | .dateTimeOffset _ | .decimal _ | .enumeration _ _ | .guid _
  | .int _ | .null | .text _ | .uint _ => rfl
theorem jsons_masked (values : List Value) : jsons (allMasked values) = jsons values := by
  match values with
  | [] => rfl
  | value :: rest => rw [allMasked, jsons, jsons, json_masked value, jsons_masked rest]
end

mutual
theorem masked_of_finite (value : Value) (finite : value.isFinite = true) : value.masked = value := by
  match value with
  | .float x => rw [masked, masked_finite x finite]
  | .list items => rw [masked, all_masked_of_finite items finite]
  | .record fields => rw [masked, all_masked_of_finite fields finite]
  | .bool _ | .keyed _ _ _ | .date _ | .dateTime _ | .dateTimeOffset _ | .decimal _ | .enumeration _ _ | .guid _
  | .int _ | .null | .text _ | .uint _ => rfl
theorem all_masked_of_finite (values : List Value) (finite : allFinite values = true) : allMasked values = values := by
  match values with
  | [] => rfl
  | value :: rest =>
      rw [allFinite, Bool.and_eq_true] at finite
      rw [allMasked, masked_of_finite value finite.1, all_masked_of_finite rest finite.2]
end

mutual
theorem finite_of_masked (value : Value) : value.masked.isFinite = value.isFinite := by
  match value with
  | .float x => exact finite_masked x
  | .list items => exact all_finite_of_masked items
  | .record fields => exact all_finite_of_masked fields
  | .bool _ | .keyed _ _ _ | .date _ | .dateTime _ | .dateTimeOffset _ | .decimal _ | .enumeration _ _ | .guid _
  | .int _ | .null | .text _ | .uint _ => rfl
theorem all_finite_of_masked (values : List Value) : allFinite (allMasked values) = allFinite values := by
  match values with
  | [] => rfl
  | value :: rest => rw [allMasked, allFinite, allFinite, finite_of_masked value, all_finite_of_masked rest]
end

mutual
theorem json_proper (value : Value) : value.json.Proper := by
  match value with
  | .float x => exact ⟨float_json_proper x, trivial⟩
  | .int n => exact ⟨int_json_proper n.toInt, trivial⟩
  | .uint n => exact ⟨int_json_proper n.toNat, trivial⟩
  | .keyed _ _ (.int n) => exact ⟨⟨trivial, trivial, ⟨int_json_proper n.toInt, trivial⟩, trivial⟩, trivial⟩
  | .keyed _ _ (.text _) => exact ⟨⟨trivial, trivial, ⟨trivial, trivial⟩, trivial⟩, trivial⟩
  | .list items => exact ⟨jsons_proper items, trivial⟩
  | .record fields => exact ⟨jsons_proper fields, trivial⟩
  | .enumeration _ _ => exact ⟨⟨trivial, trivial, trivial⟩, trivial⟩
  | .null => trivial
  | .bool _ | .date _ | .dateTime _ | .dateTimeOffset _ | .decimal _ | .guid _ | .text _ => exact ⟨trivial, trivial⟩
theorem jsons_proper (values : List Value) : Json.AllProper (jsons values) := by
  match values with
  | [] => trivial
  | value :: rest => exact ⟨json_proper value, jsons_proper rest⟩
end

mutual
theorem json_told (value other : Value) (written : value.isWritten = true) (written' : other.isWritten = true)
    (same : value.json = other.json) : value.masked = other.masked := by
  match value with
  | .bool b =>
      cases other with
      | bool c =>
          cases content_inj "Bool" _ _ same
          rfl
      | _ => simp [json, Json.tagged] at same
  | .keyed path member key =>
      cases other with
      | keyed path' member' key' =>
          have parts := content_inj "Closed" _ _ same
          simp only [Json.object.injEq, List.cons.injEq, Prod.mk.injEq, Json.string.injEq, true_and, and_true] at parts
          obtain ⟨rfl, rfl, keys⟩ := parts
          rw [key_json_told key key' keys]
      | _ => simp [json, Json.tagged] at same
  | .date d =>
      cases other with
      | date e =>
          rw [Calendar.date_inj d e (string_inj "Date" _ _ same)]
      | _ => simp [json, Json.tagged] at same
  | .dateTime d =>
      cases other with
      | dateTime e => rw [Calendar.date_time_inj d e written written' (string_inj "DateTime" _ _ same)]
      | _ => simp [json, Json.tagged] at same
  | .dateTimeOffset d =>
      cases other with
      | dateTimeOffset e => rw [Calendar.zulu_inj d e written written' (string_inj "DateTimeOffset" _ _ same)]
      | _ => simp [json, Json.tagged] at same
  | .decimal d =>
      cases other with
      | decimal e => rw [Decimal.text_inj d e (string_inj "Decimal" _ _ same)]
      | _ => simp [json, Json.tagged] at same
  | .enumeration path variant =>
      cases other with
      | enumeration path' variant' =>
          have parts := content_inj "Enum" _ _ same
          simp only [Json.object.injEq, List.cons.injEq, Prod.mk.injEq, Json.string.injEq, true_and, and_true] at parts
          obtain ⟨rfl, rfl⟩ := parts
          rfl
      | _ => simp [json, Json.tagged] at same
  | .float x =>
      cases other with
      | float y => exact congrArg Value.float (float_json_told x y (content_inj "Float64" _ _ same))
      | _ => simp [json, Json.tagged] at same
  | .guid g =>
      cases other with
      | guid h => rw [Guid.groups_inj g h (string_inj "Guid" _ _ same)]
      | _ => simp [json, Json.tagged] at same
  | .int n =>
      cases other with
      | int m => rw [Int64.toInt_inj.mp (int_json_told _ _ (content_inj "Int" _ _ same))]
      | _ => simp [json, Json.tagged] at same
  | .list items =>
      cases other with
      | list others =>
          have parts := Json.array.inj (content_inj "List" _ _ same)
          exact congrArg Value.list (jsons_told items others written written' parts)
      | _ => simp [json, Json.tagged] at same
  | .null =>
      cases other with
      | null => rfl
      | _ => simp [json, Json.tagged] at same
  | .record fields =>
      cases other with
      | record others =>
          have parts := Json.array.inj (content_inj "Record" _ _ same)
          exact congrArg Value.record (jsons_told fields others written written' parts)
      | _ => simp [json, Json.tagged] at same
  | .text s =>
      cases other with
      | text t =>
          cases content_inj "Text" _ _ same
          rfl
      | _ => simp [json, Json.tagged] at same
  | .uint n =>
      cases other with
      | uint m =>
          have numbers := int_json_told _ _ (content_inj "Uint" _ _ same)
          rw [UInt64.toNat_inj.mp (Int.ofNat.inj numbers)]
      | _ => simp [json, Json.tagged] at same
theorem jsons_told (values others : List Value) (written : allWritten values = true)
    (written' : allWritten others = true) (same : jsons values = jsons others) :
    allMasked values = allMasked others := by
  match values with
  | [] =>
      cases others with
      | nil => rfl
      | cons other others => cases same
  | value :: rest =>
      cases others with
      | nil => cases same
      | cons other others =>
          obtain ⟨first, more⟩ := List.cons.inj same
          rw [allWritten, Bool.and_eq_true] at written written'
          rw [allMasked, allMasked, json_told value other written.1 written'.1 first,
            jsons_told rest others written.2 written'.2 more]
end

theorem json_not_null (value : Value) : value.json ≠ .null := by
  intro same
  cases value <;> simp [json, Json.tagged] at same

end Value

theorem bound_json_told (a b : Option Value) (written : a.all Value.isWritten = true)
    (written' : b.all Value.isWritten = true) (same : boundJson a = boundJson b) :
    a.map Value.masked = b.map Value.masked := by
  cases a with
  | none =>
      cases b with
      | none => rfl
      | some other => exact absurd same.symm other.json_not_null
  | some value =>
      cases b with
      | none => exact absurd same value.json_not_null
      | some other => exact congrArg some (value.json_told other written written' same)

theorem bound_json_masked (a : Option Value) : boundJson (a.map Value.masked) = boundJson a := by
  cases a with
  | none => rfl
  | some value => exact value.json_masked

theorem bound_json_proper (a : Option Value) : (boundJson a).Proper := by
  cases a with
  | none => trivial
  | some value => exact value.json_proper

section Nodes

theorem comparison_json_told (a b : Comparison) (same : a.json = b.json) : a = b := by
  cases a <;> cases b <;> first | rfl | simp [Comparison.json] at same

theorem function_json_told (a b : TextFunction) (same : a.json = b.json) : a = b := by
  cases a <;> cases b <;> first | rfl | simp [TextFunction.json] at same

theorem policy_json_told (a b : Policy) (same : a.json = b.json) : a = b := by
  cases a <;> cases b <;> first | rfl | simp [Policy.json] at same

theorem slots_json_told (a b : List Nat) (same : a.map Json.ofNat = b.map Json.ofNat) : a = b := by
  refine List.map_injective_iff.mpr ?_ same
  intro n m numbers
  exact Int.ofNat.inj (int_json_told n m numbers)

theorem target_json_told (a b : Target) (same : a.json = b.json) : a = b := by
  cases a with
  | field ref =>
      cases b with
      | field other =>
          have parts := content_inj "Field" _ _ same
          obtain ⟨path, slots⟩ := ref
          obtain ⟨path', slots'⟩ := other
          simp only [FieldRef.json, Json.object.injEq, List.cons.injEq, Prod.mk.injEq, Json.string.injEq,
            Json.array.injEq, true_and, and_true] at parts
          rw [parts.1, slots_json_told slots slots' parts.2]
      | item => simp [Target.json, Json.tagged] at same
  | item =>
      cases b with
      | field other => simp [Target.json, Json.tagged] at same
      | item => rfl

theorem slots_json_proper (slots : List Nat) : Json.AllProper (slots.map Json.ofNat) := by
  induction slots with
  | nil => trivial
  | cons slot rest ih => exact ⟨int_json_proper slot, ih⟩

theorem target_json_proper (target : Target) : target.json.Proper := by
  cases target with
  | field ref => exact ⟨⟨trivial, slots_json_proper ref.slots, trivial⟩, trivial⟩
  | item => trivial

end Nodes

namespace Predicate

section Bounds

theorem bound_masked_of_finite (bound : Option Value) (finite : bound.all Value.isFinite = true) :
    bound.map Value.masked = bound := by
  cases bound with
  | none => rfl
  | some value => exact congrArg some (value.masked_of_finite finite)

theorem bound_finite_of_masked (bound : Option Value) :
    (bound.map Value.masked).all Value.isFinite = bound.all Value.isFinite := by
  cases bound with
  | none => rfl
  | some value => exact value.finite_of_masked

end Bounds

mutual
theorem json_masked (p : Predicate) : p.masked.json = p.json := by
  match p with
  | .and parts => rw [masked, json, json, jsons_masked parts]
  | .or parts => rw [masked, json, json, jsons_masked parts]
  | .not inner => rw [masked, json, json, json_masked inner]
  | .exists target inner => rw [masked, json, json, json_masked inner]
  | .guarded target inner => rw [masked, json, json, json_masked inner]
  | .compare target comparison value policy => rw [masked, json, json, Value.json_masked]
  | .range target lower upper policy => rw [masked, json, json, bound_json_masked, bound_json_masked]
  | .contains target value => rw [masked, json, json, Value.json_masked]
  | .function target fn value => rw [masked, json, json, Value.json_masked]
theorem jsons_masked (parts : List Predicate) : jsons (allMasked parts) = jsons parts := by
  match parts with
  | [] => rfl
  | part :: rest => rw [allMasked, jsons, jsons, json_masked part, jsons_masked rest]
end

mutual
theorem masked_of_finite (p : Predicate) (finite : p.everyLiteral Value.isFinite = true) : p.masked = p := by
  match p with
  | .and parts => rw [masked, all_masked_of_finite parts finite]
  | .or parts => rw [masked, all_masked_of_finite parts finite]
  | .not inner => rw [masked, masked_of_finite inner finite]
  | .exists target inner => rw [masked, masked_of_finite inner finite]
  | .guarded target inner => rw [masked, masked_of_finite inner finite]
  | .compare target comparison value policy => rw [masked, value.masked_of_finite finite]
  | .range target lower upper policy =>
      rw [everyLiteral, Bool.and_eq_true] at finite
      rw [masked, bound_masked_of_finite lower finite.1, bound_masked_of_finite upper finite.2]
  | .contains target value => rw [masked, value.masked_of_finite finite]
  | .function target fn value => rw [masked, value.masked_of_finite finite]
theorem all_masked_of_finite (parts : List Predicate) (finite : allLiterals Value.isFinite parts = true) :
    allMasked parts = parts := by
  match parts with
  | [] => rfl
  | part :: rest =>
      rw [allLiterals, Bool.and_eq_true] at finite
      rw [allMasked, masked_of_finite part finite.1, all_masked_of_finite rest finite.2]
end

mutual
theorem finite_of_masked (p : Predicate) : p.masked.everyLiteral Value.isFinite = p.everyLiteral Value.isFinite := by
  match p with
  | .and parts => exact all_finite_of_masked parts
  | .or parts => exact all_finite_of_masked parts
  | .not inner => exact finite_of_masked inner
  | .exists target inner => exact finite_of_masked inner
  | .guarded target inner => exact finite_of_masked inner
  | .compare target comparison value policy => exact value.finite_of_masked
  | .range target lower upper policy =>
      rw [masked, everyLiteral, everyLiteral, bound_finite_of_masked, bound_finite_of_masked]
  | .contains target value => exact value.finite_of_masked
  | .function target fn value => exact value.finite_of_masked
theorem all_finite_of_masked (parts : List Predicate) :
    allLiterals Value.isFinite (allMasked parts) = allLiterals Value.isFinite parts := by
  match parts with
  | [] => rfl
  | part :: rest => rw [allMasked, allLiterals, allLiterals, finite_of_masked part, all_finite_of_masked rest]
end

mutual
theorem json_proper (p : Predicate) : p.json.Proper := by
  match p with
  | .and parts => exact ⟨jsons_proper parts, trivial⟩
  | .or parts => exact ⟨jsons_proper parts, trivial⟩
  | .not inner => exact ⟨json_proper inner, trivial⟩
  | .exists target inner => exact ⟨⟨target_json_proper target, json_proper inner, trivial⟩, trivial⟩
  | .guarded target inner => exact ⟨⟨target_json_proper target, json_proper inner, trivial⟩, trivial⟩
  | .compare target comparison value policy =>
      have names : comparison.json.Proper ∧ policy.json.Proper := by
        cases comparison <;> cases policy <;> exact ⟨trivial, trivial⟩
      exact ⟨⟨target_json_proper target, names.1, value.json_proper, names.2, trivial⟩, trivial⟩
  | .range target lower upper policy =>
      have name : policy.json.Proper := by cases policy <;> trivial
      exact ⟨⟨target_json_proper target, bound_json_proper lower, bound_json_proper upper, name, trivial⟩, trivial⟩
  | .contains target value => exact ⟨⟨target_json_proper target, value.json_proper, trivial⟩, trivial⟩
  | .function target fn value =>
      have name : fn.json.Proper := by cases fn <;> trivial
      exact ⟨⟨target_json_proper target, name, value.json_proper, trivial⟩, trivial⟩
theorem jsons_proper (parts : List Predicate) : Json.AllProper (jsons parts) := by
  match parts with
  | [] => trivial
  | part :: rest => exact ⟨json_proper part, jsons_proper rest⟩
end

mutual
theorem json_told (p q : Predicate) (written : p.everyLiteral Value.isWritten = true)
    (written' : q.everyLiteral Value.isWritten = true) (same : p.json = q.json) : p.masked = q.masked := by
  match p with
  | .and parts =>
      cases q with
      | and others =>
          have each := Json.array.inj (content_inj "And" _ _ same)
          exact congrArg Predicate.and (jsons_told parts others written written' each)
      | _ => simp [json, Json.tagged] at same
  | .or parts =>
      cases q with
      | or others =>
          have each := Json.array.inj (content_inj "Or" _ _ same)
          exact congrArg Predicate.or (jsons_told parts others written written' each)
      | _ => simp [json, Json.tagged] at same
  | .not inner =>
      cases q with
      | not other => exact congrArg Predicate.not (json_told inner other written written' (content_inj "Not" _ _ same))
      | _ => simp [json, Json.tagged] at same
  | .exists target inner =>
      cases q with
      | «exists» target' other =>
          have parts := content_inj "Any" _ _ same
          simp only [Json.object.injEq, List.cons.injEq, Prod.mk.injEq, true_and, and_true] at parts
          rw [masked, masked, target_json_told target target' parts.1, json_told inner other written written' parts.2]
      | _ => simp [json, Json.tagged] at same
  | .guarded target inner =>
      cases q with
      | guarded target' other =>
          have parts := content_inj "NullGuarded" _ _ same
          simp only [Json.object.injEq, List.cons.injEq, Prod.mk.injEq, true_and, and_true] at parts
          rw [masked, masked, target_json_told target target' parts.1, json_told inner other written written' parts.2]
      | _ => simp [json, Json.tagged] at same
  | .compare target comparison value policy =>
      cases q with
      | compare target' comparison' other policy' =>
          have parts := content_inj "Compare" _ _ same
          simp only [Json.object.injEq, List.cons.injEq, Prod.mk.injEq, true_and, and_true] at parts
          obtain ⟨targets, comparisons, values, policies⟩ := parts
          rw [masked, masked, target_json_told _ _ targets, comparison_json_told _ _ comparisons,
            Value.json_told _ _ written written' values, policy_json_told _ _ policies]
      | _ => simp [json, Json.tagged] at same
  | .range target lower upper policy =>
      cases q with
      | range target' lower' upper' policy' =>
          have parts := content_inj "Range" _ _ same
          simp only [Json.object.injEq, List.cons.injEq, Prod.mk.injEq, true_and, and_true] at parts
          obtain ⟨targets, lowers, uppers, policies⟩ := parts
          rw [everyLiteral, Bool.and_eq_true] at written written'
          rw [masked, masked, target_json_told _ _ targets, bound_json_told _ _ written.1 written'.1 lowers,
            bound_json_told _ _ written.2 written'.2 uppers, policy_json_told _ _ policies]
      | _ => simp [json, Json.tagged] at same
  | .contains target value =>
      cases q with
      | contains target' other =>
          have parts := content_inj "TextContains" _ _ same
          simp only [Json.object.injEq, List.cons.injEq, Prod.mk.injEq, true_and, and_true] at parts
          rw [masked, masked, target_json_told _ _ parts.1, Value.json_told _ _ written written' parts.2]
      | _ => simp [json, Json.tagged] at same
  | .function target fn value =>
      cases q with
      | function target' fn' other =>
          have parts := content_inj "TextFunction" _ _ same
          simp only [Json.object.injEq, List.cons.injEq, Prod.mk.injEq, true_and, and_true] at parts
          obtain ⟨targets, functions, values⟩ := parts
          rw [masked, masked, target_json_told _ _ targets, function_json_told _ _ functions,
            Value.json_told _ _ written written' values]
      | _ => simp [json, Json.tagged] at same
theorem jsons_told (parts others : List Predicate) (written : allLiterals Value.isWritten parts = true)
    (written' : allLiterals Value.isWritten others = true) (same : jsons parts = jsons others) :
    allMasked parts = allMasked others := by
  match parts with
  | [] =>
      cases others with
      | nil => rfl
      | cons other others => cases same
  | part :: rest =>
      cases others with
      | nil => cases same
      | cons other others =>
          obtain ⟨first, more⟩ := List.cons.inj same
          rw [allLiterals, Bool.and_eq_true] at written written'
          rw [allMasked, allMasked, json_told part other written.1 written'.1 first,
            jsons_told rest others written.2 written'.2 more]
end

theorem json_text_iff (p q : Predicate) (written : p.isWritten = true) (written' : q.isWritten = true) :
    p.json.render = q.json.render ↔ p.masked = q.masked := by
  constructor
  · intro same
    exact json_told p q written written' (Json.render_inj p.json q.json p.json_proper q.json_proper same)
  · intro same
    rw [← p.json_masked, same, q.json_masked]

theorem eq_of_masked (p q : Predicate) (finite : p.isFinite = true) (alike : p.masked = q.masked) : p = q := by
  have finite' : q.isFinite = true := by
    rw [isFinite, ← q.finite_of_masked, ← alike, p.finite_of_masked]
    exact finite
  rw [← p.masked_of_finite finite, alike, q.masked_of_finite finite']

end Predicate

end TokenFilter
