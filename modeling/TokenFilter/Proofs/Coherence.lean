import TokenFilter.Proofs.Comparing
import TokenFilter.Proofs.Decimals

set_option autoImplicit false

namespace TokenFilter

structure Coherent {α : Type} (order : α → α → Option Ordering) (same : α → α → Bool) : Prop where
  turned (a b : α) : order b a = (order a b).map Ordering.swap
  comm (a b : α) : same a b = same b a
  equal (a b : α) (found : Ordering) (ordered : order a b = some found) : same a b = (found == .eq)

section Sorts

theorem coherent_places {α κ : Type} [BEq α] [LawfulBEq α] [Ord κ] [Std.OrientedOrd κ] [Std.LawfulEqOrd κ]
    (place : α → κ) (distinct : ∀ a b, place a = place b → a = b) :
    Coherent (fun a b => some (compare (place a) (place b))) fun a b => a == b := by
  constructor
  · intro a b
    rw [Option.map_some, Std.OrientedOrd.eq_swap (a := place b)]
  · intro a b
    exact BEq.comm
  · intro a b found ordered
    cases ordered
    rw [Bool.eq_iff_iff, beq_iff_eq, beq_iff_eq, Std.compare_eq_iff_eq]
    exact ⟨congrArg place, distinct a b⟩

theorem coherent_orders {α : Type} (order : α → α → Option Ordering)
    (turned : ∀ a b, order b a = (order a b).map Ordering.swap) : Coherent order fun a b => order a b == some .eq := by
  refine ⟨turned, ?_, ?_⟩
  · intro a b
    rw [turned a b]
    cases order a b with
    | none => rfl
    | some found => cases found <;> rfl
  · intro a b found ordered
    rw [ordered]
    rfl

theorem text_coherent : Coherent (fun a b : String => some (compare a b)) (· == ·) :=
  coherent_places id fun _ _ same => same

theorem bool_coherent : Coherent (fun a b : Bool => some (compare a b)) (· == ·) :=
  coherent_places id fun _ _ same => same

theorem int_coherent : Coherent (fun a b : Int64 => some (compare a.toInt b.toInt)) (· == ·) :=
  coherent_places Int64.toInt fun _ _ same => Int64.toInt_inj.mp same

theorem uint_coherent : Coherent (fun a b : UInt64 => some (compare a.toNat b.toNat)) (· == ·) :=
  coherent_places UInt64.toNat fun _ _ same => UInt64.toNat_inj.mp same

theorem guid_coherent : Coherent (fun a b : Guid => some (a.compare b)) (· == ·) := by
  refine coherent_places (fun g : Guid => g.bits.toNat) ?_
  intro a b same
  rw [Guid.mk.injEq]
  exact BitVec.eq_of_toNat_eq same

open Calendar in
theorem date_coherent : Coherent (fun a b : Date => some (a.compare b)) (· == ·) :=
  coherent_places Date.place Date.place_inj

open Calendar in
theorem date_time_coherent : Coherent (fun a b : DateTime => some (a.compare b)) (· == ·) :=
  coherent_places DateTime.place DateTime.place_inj

open Calendar in
theorem date_time_offset_coherent : Coherent (fun a b : OffsetDateTime => some (a.compare b)) OffsetDateTime.same :=
  coherent_orders _ fun a b => date_time_coherent.turned a.universal b.universal

theorem decimal_coherent : Coherent (fun a b : Decimal => some (a.compare b)) Decimal.same :=
  coherent_orders _ fun a b => by rw [Option.map_some, a.compare_swap]

theorem float_coherent : Coherent (fun a b : Binary64 => a.compare? b) Binary.same :=
  coherent_orders _ fun a b => (a.compare?_swap b).symm

end Sorts

theorem strict_cases (a b : Value) :
    a.compareStrict b = none ∧ b.compareStrict a = none ∨
      ∃ (α : Type) (order : α → α → Option Ordering) (same : α → α → Bool) (x y : α), Coherent order same ∧
        a.compareStrict b = order x y ∧ b.compareStrict a = order y x ∧ a.alike b = true ∧ a.same b = same x y := by
  cases a with
  | bool x =>
      cases b with
      | bool y => exact .inr ⟨_, _, _, x, y, bool_coherent, rfl, rfl, rfl, rfl⟩
      | _ => exact .inl ⟨rfl, rfl⟩
  | date x =>
      cases b with
      | date y => exact .inr ⟨_, _, _, x, y, date_coherent, rfl, rfl, rfl, rfl⟩
      | _ => exact .inl ⟨rfl, rfl⟩
  | dateTime x =>
      cases b with
      | dateTime y => exact .inr ⟨_, _, _, x, y, date_time_coherent, rfl, rfl, rfl, rfl⟩
      | _ => exact .inl ⟨rfl, rfl⟩
  | dateTimeOffset x =>
      cases b with
      | dateTimeOffset y => exact .inr ⟨_, _, _, x, y, date_time_offset_coherent, rfl, rfl, rfl, rfl⟩
      | _ => exact .inl ⟨rfl, rfl⟩
  | decimal x =>
      cases b with
      | decimal y => exact .inr ⟨_, _, _, x, y, decimal_coherent, rfl, rfl, rfl, rfl⟩
      | _ => exact .inl ⟨rfl, rfl⟩
  | float x =>
      cases b with
      | float y => exact .inr ⟨_, _, _, x, y, float_coherent, rfl, rfl, rfl, rfl⟩
      | _ => exact .inl ⟨rfl, rfl⟩
  | guid x =>
      cases b with
      | guid y => exact .inr ⟨_, _, _, x, y, guid_coherent, rfl, rfl, rfl, rfl⟩
      | _ => exact .inl ⟨rfl, rfl⟩
  | int x =>
      cases b with
      | int y => exact .inr ⟨_, _, _, x, y, int_coherent, rfl, rfl, rfl, rfl⟩
      | _ => exact .inl ⟨rfl, rfl⟩
  | text x =>
      cases b with
      | text y => exact .inr ⟨_, _, _, x, y, text_coherent, rfl, rfl, rfl, rfl⟩
      | _ => exact .inl ⟨rfl, rfl⟩
  | uint x =>
      cases b with
      | uint y => exact .inr ⟨_, _, _, x, y, uint_coherent, rfl, rfl, rfl, rfl⟩
      | _ => exact .inl ⟨rfl, rfl⟩
  | keyed => cases b <;> exact .inl ⟨rfl, rfl⟩
  | enumeration => cases b <;> exact .inl ⟨rfl, rfl⟩
  | list => cases b <;> exact .inl ⟨rfl, rfl⟩
  | null => cases b <;> exact .inl ⟨rfl, rfl⟩
  | record => cases b <;> exact .inl ⟨rfl, rfl⟩

namespace Value

theorem strict_turned (a b : Value) : b.compareStrict a = (a.compareStrict b).map Ordering.swap := by
  rcases strict_cases a b with ⟨there, back⟩ | ⟨α, order, same, x, y, coherent, there, back, _, _⟩
  · rw [there, back]
    rfl
  · rw [there, back, coherent.turned]

theorem strict_equal (a b : Value) (order : Ordering) (ordered : a.compareStrict b = some order) :
    a.alike b = true ∧ a.same b = (order == .eq) := by
  rcases strict_cases a b with ⟨there, _⟩ | ⟨α, _, same, x, y, coherent, there, _, alike, equal⟩
  · rw [there] at ordered
    cases ordered
  · rw [there] at ordered
    exact ⟨alike, equal.trans (coherent.equal x y order ordered)⟩

theorem numeric_turned (a b : Value) : b.compareNumeric a = (a.compareNumeric b).map Ordering.swap := by
  unfold compareNumeric
  cases a.numeric? with
  | none =>
      cases b.numeric? with
      | none => rfl
      | some y => cases y <;> rfl
  | some x =>
      cases b.numeric? with
      | none => cases x <;> rfl
      | some y =>
          -- Both ways round the same number is converted, the one beside a float.
          cases x with
          | exact x =>
              cases y with
              | exact y => exact decimal_coherent.turned x y
              | float y => exact float_coherent.turned x.toBinary y
          | float x =>
              cases y with
              | exact y => exact float_coherent.turned x y.toBinary
              | float y => exact float_coherent.turned x y

theorem alike_comm (a b : Value) : a.alike b = b.alike a := by
  cases a <;> cases b <;> rfl

mutual
theorem same_comm (a b : Value) : a.same b = b.same a := by
  cases a with
  | bool x =>
      cases b with
      | bool y => exact BEq.comm
      | _ => rfl
  | keyed path member key =>
      cases b with
      | keyed path' member' key' => simp only [same, BEq.comm (a := path), BEq.comm (a := member), BEq.comm (a := key)]
      | _ => rfl
  | date x =>
      cases b with
      | date y => exact BEq.comm
      | _ => rfl
  | dateTime x =>
      cases b with
      | dateTime y => exact BEq.comm
      | _ => rfl
  | dateTimeOffset x =>
      cases b with
      | dateTimeOffset y => exact date_time_offset_coherent.comm x y
      | _ => rfl
  | decimal x =>
      cases b with
      | decimal y => exact decimal_coherent.comm x y
      | _ => rfl
  | enumeration path variant =>
      cases b with
      | enumeration path' variant' => simp only [same, BEq.comm (a := path), BEq.comm (a := variant)]
      | _ => rfl
  | float x =>
      cases b with
      | float y => exact float_coherent.comm x y
      | _ => rfl
  | guid x =>
      cases b with
      | guid y => exact BEq.comm
      | _ => rfl
  | int x =>
      cases b with
      | int y => exact BEq.comm
      | _ => rfl
  | list items =>
      cases b with
      | list others => exact all_same_comm items others
      | _ => rfl
  | null => cases b <;> rfl
  | record fields =>
      cases b with
      | record others => exact all_same_comm fields others
      | _ => rfl
  | text x =>
      cases b with
      | text y => exact BEq.comm
      | _ => rfl
  | uint x =>
      cases b with
      | uint y => exact BEq.comm
      | _ => rfl
theorem all_same_comm (as bs : List Value) : allSame as bs = allSame bs as := by
  cases as with
  | nil => cases bs <;> rfl
  | cons a as =>
      cases bs with
      | nil => rfl
      | cons b bs => rw [allSame, allSame, a.same_comm b, all_same_comm as bs]
end

end Value

theorem order_turned (policy : Policy) (a b : Value) :
    compareOrder policy b a = (compareOrder policy a b).map Ordering.swap := by
  cases policy with
  | strict => exact a.strict_turned b
  | numericWiden =>
      rw [numeric_order, numeric_order]
      exact a.numeric_turned b
  | dateTruncate => exact a.truncated.strict_turned b.truncated

theorem strict_equality (a b : Value) (order : Ordering) (ordered : a.compareStrict b = some order) :
    (if a.alike b then some (a.same b) else none) = some (order == .eq) := by
  obtain ⟨alike, equal⟩ := a.strict_equal b order ordered
  rw [alike, equal]
  rfl

theorem equality_ordered (policy : Policy) (a b : Value) (order : Ordering)
    (ordered : compareOrder policy a b = some order) : compareEq policy a b = some (order == .eq) := by
  cases policy with
  | strict => exact strict_equality a b order ordered
  | numericWiden =>
      rw [numeric_equality, ordered]
      rfl
  | dateTruncate => exact strict_equality a.truncated b.truncated order ordered

theorem equality_comm (policy : Policy) (a b : Value) : compareEq policy a b = compareEq policy b a := by
  cases policy with
  | strict =>
      unfold compareEq
      rw [a.alike_comm, a.same_comm]
  | numericWiden =>
      rw [numeric_equality, numeric_equality, order_turned .numericWiden a b]
      cases compareOrder .numericWiden a b with
      | none => rfl
      | some order => cases order <;> rfl
  | dateTruncate =>
      unfold compareEq
      rw [a.truncated.alike_comm, a.truncated.same_comm]

def Value.isOrdered : Value → Bool
  | .keyed _ _ _ | .enumeration _ _ | .list _ | .null | .record _ => false
  | _ => true

def Policy.Orders (policy : Policy) (a b : Value) : Prop :=
  match policy with
  | .strict => a.alike b = true ∧ a.isOrdered = true
  | .numericWiden => a.isNumeric = true ∧ b.isNumeric = true
  | .dateTruncate => a.truncated.alike b.truncated = true ∧ a.truncated.isOrdered = true

section Defined

theorem nan_iff (a : Value) : a.IsNan ↔ a = .float .nan := by
  cases a with
  | float x => cases x <;> simp [Value.IsNan]
  | _ => simp [Value.IsNan]

theorem float_order_iff (x y : Binary64) : (x.compare? y).isSome = true ↔ x ≠ .nan ∧ y ≠ .nan := by
  cases x with
  | nan => simp [Binary.compare?, Binary.place?]
  | number negative rank bound =>
      cases y with
      | nan => cases negative <;> simp [Binary.compare?, Binary.place?]
      | number negative' rank' bound' => cases negative <;> cases negative' <;> simp [Binary.compare?, Binary.place?]

theorem binary_not_nan (d : Decimal) : (d.toBinary : Binary64) ≠ .nan := by
  unfold Decimal.toBinary
  simp only
  split <;> simp

theorem strict_order_iff (a b : Value) :
    (a.compareStrict b).isSome = true ↔ (a.alike b = true ∧ a.isOrdered = true) ∧ ¬ a.IsNan ∧ ¬ b.IsNan := by
  rw [nan_iff, nan_iff]
  cases a <;> cases b <;> simp [Value.compareStrict, Value.alike, Value.isOrdered, float_order_iff]

theorem numeric_order_iff (a b : Value) :
    (a.compareNumeric b).isSome = true ↔ (a.isNumeric = true ∧ b.isNumeric = true) ∧ ¬ a.IsNan ∧ ¬ b.IsNan := by
  rw [nan_iff, nan_iff]
  cases a <;> cases b <;>
    simp [Value.compareNumeric, Value.numeric?, Value.isNumeric, float_order_iff, binary_not_nan]

theorem truncated_nan (a : Value) : a.truncated.IsNan ↔ a.IsNan := by
  cases a with
  | dateTimeOffset d => cases shown : d.zoned? <;> simp [Value.truncated, shown, Value.IsNan]
  | _ => rfl

-- Two values of one variant that is ordered, of numbers two of any variants, have an order unless one is NaN.
theorem order_defined_iff (policy : Policy) (a b : Value) :
    (compareOrder policy a b).isSome = true ↔ policy.Orders a b ∧ ¬ a.IsNan ∧ ¬ b.IsNan := by
  cases policy with
  | strict => exact strict_order_iff a b
  | numericWiden =>
      rw [numeric_order]
      exact numeric_order_iff a b
  | dateTruncate =>
      rw [← truncated_nan a, ← truncated_nan b]
      exact strict_order_iff a.truncated b.truncated

end Defined

-- Where two values have an order under a policy, it says whether they are equal and is the reverse of their order the
-- other way round; they have one both ways or neither, and are equal both ways or neither.
theorem compare_coherent (policy : Policy) (a b : Value) :
    (∀ order, compareOrder policy a b = some order →
      compareEq policy a b = some (order == .eq) ∧ compareOrder policy b a = some order.swap) ∧
    (compareOrder policy a b = none ↔ compareOrder policy b a = none) ∧
    compareEq policy a b = compareEq policy b a := by
  have turned := order_turned policy a b
  refine ⟨?_, ?_, equality_comm policy a b⟩
  · intro order ordered
    refine ⟨equality_ordered policy a b order ordered, ?_⟩
    rw [turned, ordered]
    rfl
  · rw [turned, Option.map_eq_none_iff]

end TokenFilter
