import TokenFilter.Compile
import TokenFilter.Proofs.Literals

set_option autoImplicit false

namespace TokenFilter

namespace Value

def date? : Value → Option Calendar.Date
  | .date d => some d
  | .dateTime d => some d.date
  | .dateTimeOffset d => d.zoned?.map Calendar.DateTime.date
  | _ => none

def IsNan : Value → Prop
  | .float .nan => True
  | _ => False

end Value

namespace Kind

-- A text has the literal within it, a date-time is on the same day, a number is the same number, and
-- a value of any other kind is the same value.
def Agrees (kind : Kind) (actual literal : Value) : Prop :=
  match kind.nonNull with
  | .text => ∃ s t, actual = .text s ∧ literal = .text t ∧ t.toList <:+: s.toList
  | .dateTime => ∃ day, actual.date? = some day ∧ literal.date? = some day
  | .decimal | .float | .int | .uint => actual.compareNumeric literal = some .eq
  | _ => actual.same literal = true

def order? (kind : Kind) (actual literal : Value) : Option Ordering :=
  match kind.nonNull with
  | .dateTime => actual.date?.bind fun day => literal.date?.map day.compare
  | .decimal | .float | .int | .uint => actual.compareNumeric literal
  | _ => actual.compareStrict literal

end Kind

theorem same_alike (a b : Value) (same : a.same b = true) : a.alike b = true := by
  cases a <;> cases b <;> first | rfl | cases same

theorem strict_eq (a b : Value) : (compareEq .strict a b).getD false = a.same b := by
  unfold compareEq
  cases same : a.same b with
  | true => simp [same_alike a b same]
  | false => cases a.alike b <;> rfl

theorem compare_numeric_some (a b : Value) (order : Ordering) (compared : a.compareNumeric b = some order) :
    a.isNumeric = true ∧ b.isNumeric = true := by
  constructor
  · cases a <;> first | rfl | cases compared
  · cases b <;> first | rfl | (cases a <;> cases compared)

theorem numeric_order (a b : Value) : compareOrder .numericWiden a b = a.compareNumeric b := by
  cases compared : a.compareNumeric b with
  | none => simp [compareOrder, compared]
  | some order =>
      obtain ⟨first, second⟩ := compare_numeric_some a b order compared
      simp [compareOrder, first, second, compared]

theorem numeric_equality (a b : Value) :
    compareEq .numericWiden a b = (compareOrder .numericWiden a b).map (· == .eq) := by
  cases both : a.isNumeric && b.isNumeric <;> simp [compareEq, compareOrder, both]

theorem numeric_eq (a b : Value) :
    (compareEq .numericWiden a b).getD false = true ↔ a.compareNumeric b = some .eq := by
  rw [numeric_equality, numeric_order]
  cases a.compareNumeric b with
  | none => simp
  | some order => simp

theorem truncated_date (a : Value) (day : Calendar.Date) : a.truncated = .date day ↔ a.date? = some day := by
  cases a with
  | dateTimeOffset d => cases shown : d.zoned? <;> simp [Value.truncated, Value.date?, shown]
  | _ => simp [Value.truncated, Value.date?]

theorem truncated_eq (a : Value) (d : Calendar.DateTime) :
    (compareEq .dateTruncate a (.dateTime d)).getD false = true ↔ a.date? = some d.date := by
  rw [← truncated_date]
  show (if a.truncated.alike (.date d.date) then some (a.truncated.same (.date d.date)) else none).getD false = true ↔ _
  generalize a.truncated = value
  cases value <;> simp [Value.alike, Value.same]

theorem truncated_order (a : Value) (d : Calendar.DateTime) :
    compareOrder .dateTruncate a (.dateTime d) = a.date?.map (·.compare d.date) := by
  change a.truncated.compareStrict (.date d.date) = _
  cases dated : a.date? with
  | some day =>
      rw [(truncated_date a day).mpr dated]
      rfl
  | none =>
      have other : ∀ day, a.truncated ≠ .date day := by
        intro day same
        rw [(truncated_date a day).mp same] at dated
        cases dated
      generalize a.truncated = value at other
      cases value with
      | date day => exact absurd rfl (other day)
      | _ => rfl

theorem policy_agrees (kind : Kind) (actual literal : Value) (plain : kind.isText = false)
    (scalar : ScalarOf kind.nonNull literal) :
    (compareEq (Policy.ofKind kind) actual literal).getD false = true ↔ kind.Agrees actual literal := by
  unfold Kind.isText at plain
  unfold Policy.ofKind Kind.Agrees
  generalize kind.nonNull = inner at *
  cases scalar with
  | text s => cases plain
  | dateTime d =>
      show (compareEq .dateTruncate actual (.dateTime d)).getD false = true ↔ _
      rw [truncated_eq]
      constructor
      · intro same
        exact ⟨d.date, same, rfl⟩
      · intro agrees
        obtain ⟨day, same, literalDay⟩ := agrees
        rw [same]
        exact literalDay.symm
  | decimal d => exact numeric_eq actual _
  | float x => exact numeric_eq actual _
  | int n => exact numeric_eq actual _
  | uint n => exact numeric_eq actual _
  | _ => simp only [strict_eq]

theorem policy_order (kind : Kind) (actual literal : Value) (scalar : ScalarOf kind.nonNull literal) :
    compareOrder (Policy.ofKind kind) actual literal = kind.order? actual literal := by
  unfold Policy.ofKind Kind.order?
  generalize kind.nonNull = inner at *
  cases scalar with
  | dateTime d =>
      show compareOrder .dateTruncate actual (.dateTime d) = _
      rw [truncated_order]
      cases actual.date? <;> simp [Value.date?]
  | decimal d => exact numeric_order actual _
  | float x => exact numeric_order actual _
  | int n => exact numeric_order actual _
  | uint n => exact numeric_order actual _
  | _ => rfl

theorem float_comparable (x y : Binary64) :
    (x.compare? y).isSome = true ∨ (Value.float x).IsNan ∨ (Value.float y).IsNan := by
  cases x with
  | nan => exact .inr (.inl trivial)
  | number negative rank bound =>
      cases y with
      | nan => exact .inr (.inr trivial)
      | number negative' rank' bound' => cases negative <;> cases negative' <;> exact .inl rfl

theorem eq_comparable (kind : Kind) (actual literal : Value) (typed : ScalarOf kind.nonNull actual)
    (scalar : ScalarOf kind.nonNull literal) :
    (compareEq (Policy.ofKind kind) actual literal).isSome = true ∨ actual.IsNan ∨ literal.IsNan := by
  unfold Policy.ofKind
  generalize kind.nonNull = inner at *
  cases typed with
  | float x =>
      cases scalar with
      | float y =>
          rcases float_comparable x y with defined | nan
          · refine .inl ?_
            simpa [compareEq, Value.isNumeric, Value.compareNumeric, Value.numeric?] using defined
          · exact .inr nan
  | _ => cases scalar; exact .inl rfl

theorem order_comparable (kind : Kind) (actual literal : Value) (ranged : kind.isRanged = true)
    (typed : ScalarOf kind.nonNull actual) (scalar : ScalarOf kind.nonNull literal) :
    (compareOrder (Policy.ofKind kind) actual literal).isSome = true ∨ actual.IsNan ∨ literal.IsNan := by
  unfold Kind.isRanged Kind.isTemporal Kind.isNumeric at ranged
  unfold Policy.ofKind
  generalize kind.nonNull = inner at *
  cases typed with
  | float x =>
      cases scalar with
      | float y =>
          rcases float_comparable x y with defined | nan
          · refine .inl ?_
            simpa [compareOrder, Value.isNumeric, Value.compareNumeric, Value.numeric?] using defined
          · exact .inr nan
  | bool b => cases ranged
  | guid g => cases ranged
  | text s => cases ranged
  | enumeration e variant => cases ranged
  | keyed k member key => cases ranged
  | _ => cases scalar; exact .inl rfl

end TokenFilter
