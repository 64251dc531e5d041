import TokenFilter.Proofs.Bounds
import TokenFilter.Proofs.Exactness

set_option autoImplicit false

namespace TokenFilter

def Value.point? : Value → Option ℚ
  | .date d => some d.place
  | .dateTime d => some d.date.place
  | .dateTimeOffset d => some d.universal.place
  | .float x => x.place?.map fun place : ℤ => (place : ℚ)
  | value => value.exact?

def Policy.Between (policy : Policy) (low high : Option Value) (actual : Value) : Prop :=
  (∀ bound ∈ low, policy.AtMost bound actual) ∧ ∀ bound ∈ high, policy.AtMost actual bound

inductive Kind.Bound (kind : Kind) : String → Option Value → Prop where
  | absent : kind.Bound "" none
  | present {text : String} {value : Value} (read : kind.readLiteral text.toList = .ok value) :
      kind.Bound text (some value)

theorem cast_compare (m n : ℤ) : compare (m : ℚ) (n : ℚ) = compare m n := by
  rw [← cmp_eq_compare, ← cmp_eq_compare]
  exact (Int.cast_strictMono (R := ℚ)).cmp_map_eq m n

theorem float_points (x y : Binary64) :
    x.compare? y = (Value.float x).point?.bind fun a => (Value.float y).point?.map fun b => compare a b := by
  show x.compare? y = (x.place?.map fun place : ℤ => (place : ℚ)).bind fun a =>
    (y.place?.map fun place : ℤ => (place : ℚ)).map fun b => compare a b
  unfold Binary.compare?
  cases x.place? with
  | none => rfl
  | some a =>
      cases y.place? with
      | none => rfl
      | some b => exact congrArg some (cast_compare a b).symm

section Line

variable (kind : Kind) {a b c : Value} (ranged : kind.isRanged = true) (first : ScalarOf kind.nonNull a)
  (second : ScalarOf kind.nonNull b) (third : ScalarOf kind.nonNull c)
include ranged first second

theorem order_points :
    compareOrder (Policy.ofKind kind) a b = a.point?.bind fun x => b.point?.map fun y => compare x y := by
  unfold Kind.isRanged Kind.isTemporal Kind.isNumeric at ranged
  unfold Policy.ofKind
  generalize kind.nonNull = inner at *
  cases first with
  | date d =>
      cases second with
      | date e => exact congrArg some (cast_compare d.place e.place).symm
  | dateTime d =>
      cases second with
      | dateTime e => exact congrArg some (cast_compare d.date.place e.date.place).symm
  | dateTimeOffset d =>
      cases second with
      | dateTimeOffset e => exact congrArg some (cast_compare d.universal.place e.universal.place).symm
  | decimal d =>
      cases second with
      | decimal e => exact exact_order rfl rfl
  | float x =>
      cases second with
      | float y =>
          rw [← float_points]
          exact numeric_order _ _
  | int m =>
      cases second with
      | int n => exact exact_order rfl rfl
  | uint m =>
      cases second with
      | uint n => exact exact_order rfl rfl
  | bool => cases ranged
  | guid => cases ranged
  | text => cases ranged
  | enumeration => cases ranged
  | keyed => cases ranged

theorem at_most_points :
    (Policy.ofKind kind).AtMost a b ↔ ∃ x y, a.point? = some x ∧ b.point? = some y ∧ x ≤ y := by
  rw [Policy.AtMost, order_points kind ranged first second]
  cases a.point? with
  | none => simp
  | some x =>
      cases b.point? with
      | none => simp
      | some y => simp [Ordering.isLE_iff_ne_gt, compare_le_iff_le]

include third

theorem at_most_trans (early : (Policy.ofKind kind).AtMost a b) (late : (Policy.ofKind kind).AtMost b c) :
    (Policy.ofKind kind).AtMost a c := by
  obtain ⟨x, y, here, there, less⟩ := (at_most_points kind ranged first second).mp early
  obtain ⟨_, z, again, beyond, less'⟩ := (at_most_points kind ranged second third).mp late
  cases there.symm.trans again
  exact (at_most_points kind ranged first third).mpr ⟨x, z, here, beyond, less.trans less'⟩

end Line

theorem stands_lower (kind : Kind) (cs : List Char) (low actual : Value) (read : kind.readLiteral cs = .ok low) :
    kind.Stands Ordering.isGE actual cs ↔ (Policy.ofKind kind).AtMost low actual := by
  rw [← order_stands kind _ actual low cs read, Policy.AtMost, order_turned _ actual low, Option.any_map]
  cases compareOrder (Policy.ofKind kind) actual low with
  | none => rfl
  | some order => cases order <;> rfl

theorem stands_upper (kind : Kind) (cs : List Char) (high actual : Value) (read : kind.readLiteral cs = .ok high) :
    kind.Stands Ordering.isLE actual cs ↔ (Policy.ofKind kind).AtMost actual high :=
  (order_stands kind _ actual high cs read).symm

section Ends

variable {kind : Kind}

theorem bound_read {text : String} {bound : Option Value} (ranged : kind.isRanged = true)
    (written : kind.Bound text bound) :
    '(' ∉ text.toList ∧ '&' ∉ text.toList ∧
      Option.Rel (fun cs value => kind.readLiteral cs = .ok value) (Token.bound? text.toList) bound := by
  cases written with
  | absent => exact ⟨by simp, by simp, .none⟩
  | @present text value read =>
      have ends := ranged_endpoint kind text.toList value ranged read
      refine ⟨ends.plain, ends.undivided, ?_⟩
      rw [Token.bound_some _ ends.named]
      exact .some ends.trimmed

theorem range_read {lower upper : String} {low high : Option Value} (ranged : kind.isRanged = true)
    (below : kind.Bound lower low) (above : kind.Bound upper high) (levels : Nat) :
    Token.readWithin (.ofKind kind) levels (lower ++ "&" ++ upper).toList =
      .ok (.range (Token.bound? lower.toList) (Token.bound? upper.toList)) := by
  obtain ⟨plain, undivided, _⟩ := bound_read ranged below
  obtain ⟨plain', undivided', _⟩ := bound_read ranged above
  rw [String.toList_append, String.toList_append, List.append_assoc]
  exact Token.read_between _ levels lower.toList upper.toList ranged plain plain' undivided undivided'

theorem bound_scalar {text : String} {bound : Option Value} (written : kind.Bound text bound) :
    ∀ value ∈ bound, ScalarOf kind.nonNull value := by
  cases written with
  | absent => simp
  | @present text literal read =>
      intro value here
      cases here
      exact read_literal_scalar kind _ literal read

variable {lower upper : Option (List Char)} {low high : Option Value}
  (below : Option.Rel (fun cs value => kind.readLiteral cs = .ok value) lower low)
  (above : Option.Rel (fun cs value => kind.readLiteral cs = .ok value) upper high)
include below above

theorem range_matches (value : Option Value) :
    (Token.range lower upper).Matches kind value ↔
      kind.HasSuch value ((Policy.ofKind kind).Between low high) := by
  have least : ∀ actual, (∀ cs ∈ lower, kind.Stands Ordering.isGE actual cs) ↔
      ∀ bound ∈ low, (Policy.ofKind kind).AtMost bound actual := by
    intro actual
    cases below with
    | none => simp
    | some read => simp [stands_lower kind _ _ actual read]
  have greatest : ∀ actual, (∀ cs ∈ upper, kind.Stands Ordering.isLE actual cs) ↔
      ∀ bound ∈ high, (Policy.ofKind kind).AtMost actual bound := by
    intro actual
    cases above with
    | none => simp
    | some read => simp [stands_upper kind _ _ actual read]
  simp only [Token.Matches, least, greatest]
  rfl

theorem range_survives (bounded : low.isSome = true ∨ high.isSome = true) :
    (Token.range lower upper).survives kind = true := by
  cases below with
  | none =>
      cases above with
      | none => simp at bounded
      | some read => simp [Token.survives, reads_literal _ _ _ read]
  | some read =>
      cases above with
      | none => simp [Token.survives, reads_literal _ _ _ read]
      | some read' => simp [Token.survives, reads_literal _ _ _ read, reads_literal _ _ _ read']

end Ends

section Bounds

variable {kind : Kind} (ranged : kind.isRanged = true) {actual : Value} (typed : ScalarOf kind.nonNull actual)
include ranged typed

theorem between_wider {low high outerLow outerHigh : Option Value} (scalars : ∀ value ∈ low, ScalarOf kind.nonNull value)
    (scalars' : ∀ value ∈ high, ScalarOf kind.nonNull value)
    (outer : ∀ value ∈ outerLow, ScalarOf kind.nonNull value ∧ ∃ bound ∈ low, (Policy.ofKind kind).AtMost value bound)
    (outer' : ∀ value ∈ outerHigh,
      ScalarOf kind.nonNull value ∧ ∃ bound ∈ high, (Policy.ofKind kind).AtMost bound value)
    (between : (Policy.ofKind kind).Between low high actual) :
    (Policy.ofKind kind).Between outerLow outerHigh actual := by
  obtain ⟨below, above⟩ := between
  constructor
  · intro value here
    obtain ⟨scalar, bound, inner, less⟩ := outer value here
    exact at_most_trans kind ranged scalar (scalars bound inner) typed less (below bound inner)
  · intro value here
    obtain ⟨scalar, bound, inner, less⟩ := outer' value here
    exact at_most_trans kind ranged typed (scalars' bound inner) scalar (above bound inner) less

theorem between_crossed {low high : Value} (scalar : ScalarOf kind.nonNull low) (scalar' : ScalarOf kind.nonNull high)
    (crossed : compareOrder (Policy.ofKind kind) low high = some .gt) :
    ¬ (Policy.ofKind kind).Between (some low) (some high) actual := by
  rintro ⟨below, above⟩
  have less := at_most_trans kind ranged scalar typed scalar' (below low rfl) (above high rfl)
  rw [Policy.AtMost, crossed] at less
  cases less

end Bounds

-- Of an entity of the schema, a range looks only at values of its own kind.
theorem offered_scalar (schema : Schema) (path : String) (route : Path.Route) (entity : Entity)
    (resolved : schema.resolve path = .ok route) (admits : schema.Admits entity) (literal value : Value)
    (scalar : ScalarOf route.kind.leaf.nonNull literal) (offered : route.Offers entity value)
    (present : route.kind.leaf.isNullable = true → value.isNull = false) :
    ScalarOf route.kind.leaf.nonNull value := by
  have read := read_resolved schema entity route (resolve_answers schema entity path route admits resolved)
  have conforms : Conforms route.kind.leaf value := by
    unfold Path.Route.Offers at offered
    cases collection : route.kind.item? with
    | none =>
        rw [collection] at offered
        rw [route.kind.leaf_plain collection]
        exact read value offered
    | some item =>
        rw [collection] at offered
        obtain ⟨items, here, member⟩ := offered
        rw [route.kind.leaf_item item collection]
        exact conforms_items route.kind item _ collection (read _ here) value member
  exact conforms_scalar _ literal value scalar (present_conforms conforms present)

section Answers

variable (schema : Schema) (path : String) (route : Path.Route) (combination : Combination) (entity : Entity)
  (resolved : schema.resolve path = .ok route) (ranged : route.kind.leaf.isRanged = true)
include resolved ranged

section Range

variable {lower upper : String} {low high : Option Value} (below : route.kind.leaf.Bound lower low)
  (above : route.kind.leaf.Bound upper high) (bounded : low.isSome = true ∨ high.isSome = true)
include below above bounded

theorem range_answer :
    ∃ answer, schema.answer? combination path (lower ++ "&" ++ upper) entity = some answer ∧
      (answer = true ↔ ∃ value, route.Offers entity value ∧
        (route.kind.leaf.isNullable = true → value.isNull = false) ∧
        (Policy.ofKind route.kind.leaf).Between low high value) := by
  obtain ⟨_, _, first⟩ := bound_read ranged below
  obtain ⟨_, _, second⟩ := bound_read ranged above
  have read := range_read ranged below above Token.negationLimit
  have matched := such_offered route entity _ _ (range_matches first second)
  rw [← matched]
  exact single_answer schema path _ route _ combination resolved read (range_survives first second bounded) entity

theorem not_range_answer (plain : route.kind.item? = none) :
    schema.answer? combination path ("not(" ++ (lower ++ "&" ++ upper) ++ ")") entity =
      (schema.answer? combination path (lower ++ "&" ++ upper) entity).map (!·) := by
  obtain ⟨_, _, first⟩ := bound_read ranged below
  obtain ⟨_, _, second⟩ := bound_read ranged above
  have read := range_read ranged below above
  have survives := range_survives first second bounded
  exact negated_answer schema path _ route _ combination resolved (read _) (read _) survives plain entity

end Range

variable (admits : schema.Admits entity)
include admits

theorem wider_answer {lower upper outer outer' : String} {low high outerLow outerHigh : Option Value}
    (below : route.kind.leaf.Bound lower low) (above : route.kind.leaf.Bound upper high)
    (further : route.kind.leaf.Bound outer outerLow) (further' : route.kind.leaf.Bound outer' outerHigh)
    (bounded : outerLow.isSome = true ∨ outerHigh.isSome = true)
    (wider : ∀ value ∈ outerLow, ∃ bound ∈ low, (Policy.ofKind route.kind.leaf).AtMost value bound)
    (wider' : ∀ value ∈ outerHigh, ∃ bound ∈ high, (Policy.ofKind route.kind.leaf).AtMost bound value)
    (matched : schema.answer? combination path (lower ++ "&" ++ upper) entity = some true) :
    schema.answer? combination path (outer ++ "&" ++ outer') entity = some true := by
  have scalars := bound_scalar below
  have scalars' := bound_scalar above
  -- Some inner bound is there, on the side of an outer one, and tells what values the field has.
  have inner : ∃ bound, ScalarOf route.kind.leaf.nonNull bound ∧ (low.isSome = true ∨ high.isSome = true) := by
    cases bounded with
    | inl there =>
        obtain ⟨value, here⟩ := Option.isSome_iff_exists.mp there
        obtain ⟨bound, inside, _⟩ := wider value here
        exact ⟨bound, scalars bound inside, .inl (Option.isSome_of_mem inside)⟩
    | inr there =>
        obtain ⟨value, here⟩ := Option.isSome_iff_exists.mp there
        obtain ⟨bound, inside, _⟩ := wider' value here
        exact ⟨bound, scalars' bound inside, .inr (Option.isSome_of_mem inside)⟩
  obtain ⟨bound, scalar, present⟩ := inner
  obtain ⟨_, given, asks⟩ :=
    range_answer schema path route combination entity resolved ranged below above present
  cases matched.symm.trans given
  obtain ⟨value, offered, solid, between⟩ := asks.mp rfl
  have typed := offered_scalar schema path route entity resolved admits bound value scalar offered solid
  have outside : (Policy.ofKind route.kind.leaf).Between outerLow outerHigh value := by
    refine between_wider ranged typed scalars scalars' ?_ ?_ between
    · intro value here
      exact ⟨bound_scalar further value here, wider value here⟩
    · intro value here
      exact ⟨bound_scalar further' value here, wider' value here⟩
  obtain ⟨answer, given', asks'⟩ :=
    range_answer schema path route combination entity resolved ranged further further' bounded
  rw [given', asks'.mpr ⟨value, offered, solid, outside⟩]

-- A range between two literals has an answer. What lies in it lies in each range that is as wide or wider, with both
-- its ends or with one of them, and where its ends are crossed nothing lies in it.
theorem compile_intervals (a b : String) (low high : Value) (literal : route.kind.leaf.readLiteral a.toList = .ok low)
    (literal' : route.kind.leaf.readLiteral b.toList = .ok high) :
    (schema.answer? combination path (a ++ "&" ++ b) entity).isSome = true ∧
    (∀ a' b' low' high', route.kind.leaf.readLiteral a'.toList = .ok low' →
      route.kind.leaf.readLiteral b'.toList = .ok high' →
      (Policy.ofKind route.kind.leaf).AtMost low' low → (Policy.ofKind route.kind.leaf).AtMost high high' →
      schema.answer? combination path (a ++ "&" ++ b) entity = some true →
      schema.answer? combination path (a' ++ "&" ++ b') entity = some true ∧
        schema.answer? combination path (a' ++ "&") entity = some true ∧
        schema.answer? combination path ("&" ++ b') entity = some true) ∧
    (compareOrder (Policy.ofKind route.kind.leaf) low high = some .gt →
      schema.answer? combination path (a ++ "&" ++ b) entity = some false ∧
        (route.kind.item? = none →
          schema.answer? combination path ("not(" ++ (a ++ "&" ++ b) ++ ")") entity = some true)) := by
  have below : route.kind.leaf.Bound a (some low) := .present literal
  have above : route.kind.leaf.Bound b (some high) := .present literal'
  have scalar := read_literal_scalar _ _ low literal
  have scalar' := read_literal_scalar _ _ high literal'
  obtain ⟨answer, given, asks⟩ :=
    range_answer schema path route combination entity resolved ranged below above (.inl rfl)
  refine ⟨by rw [given]; rfl, ?_, ?_⟩
  · intro a' b' low' high' read read' less less' matched
    have further : route.kind.leaf.Bound a' (some low') := .present read
    have further' : route.kind.leaf.Bound b' (some high') := .present read'
    have wider : ∀ value ∈ some low', ∃ bound ∈ some low, (Policy.ofKind route.kind.leaf).AtMost value bound := by
      intro value here
      cases here
      exact ⟨low, rfl, less⟩
    have wider' : ∀ value ∈ some high', ∃ bound ∈ some high, (Policy.ofKind route.kind.leaf).AtMost bound value := by
      intro value here
      cases here
      exact ⟨high, rfl, less'⟩
    refine ⟨?_, ?_, ?_⟩
    · exact wider_answer schema path route combination entity resolved ranged admits below above further further'
        (.inl rfl) wider wider' matched
    · have upward := wider_answer schema path route combination entity resolved ranged admits below above further
        .absent (.inl rfl) wider (by simp) matched
      rwa [String.append_empty] at upward
    · have downward := wider_answer schema path route combination entity resolved ranged admits below above .absent
        further' (.inr rfl) (by simp) wider' matched
      rwa [String.empty_append] at downward
  · intro crossed
    have missed : answer = false := by
      rw [Bool.eq_false_iff]
      intro matched
      obtain ⟨value, offered, solid, between⟩ := asks.mp matched
      have typed := offered_scalar schema path route entity resolved admits low value scalar offered solid
      exact between_crossed ranged typed scalar scalar' crossed between
    cases missed
    refine ⟨given, ?_⟩
    intro plain
    rw [not_range_answer schema path route combination entity resolved ranged below above (.inl rfl) plain, given]
    rfl

end Answers

theorem compile_intervals_of_orders :
    let schema : Schema := ⟨"orders", "Order", [⟨"Total", .nullable .decimal⟩]⟩
    let entity : Entity := fun slot => [.decimal ⟨false, 105, 1, by decide, by decide⟩][slot]?
    let missing : Entity := fun slot => [.null][slot]?
    schema.answer? .and "total" ("10" ++ "&" ++ "1.1e1") entity = some true ∧
      schema.answer? .and "total" ("9.99" ++ "&" ++ " \"1_1\"") entity = some true ∧
      schema.answer? .and "total" ("9.99" ++ "&") entity = some true ∧
      schema.answer? .and "total" ("&" ++ " \"1_1\"") entity = some true ∧
      schema.answer? .and "total" ("1.1e1" ++ "&" ++ "10") missing = some false ∧
      schema.answer? .and "total" ("not(" ++ ("1.1e1" ++ "&" ++ "10") ++ ")") missing = some true := by
  intro schema entity missing
  let route : Path.Route := ⟨["Total"], [0], .nullable .decimal⟩
  have resolved : schema.resolve "total" = .ok route := rfl
  have ranged : route.kind.leaf.isRanged = true := rfl
  have admits : ∀ total, Conforms (.nullable .decimal) total → schema.Admits fun slot => [total][slot]? := by
    intro total conforms slot field declared
    match slot with
    | 0 =>
        cases declared
        exact ⟨total, rfl, conforms⟩
    | slot + 1 => cases declared
  have ten : route.kind.leaf.readLiteral "10".toList = .ok (.decimal ⟨false, 10, 0, by decide, by decide⟩) := rfl
  have eleven : route.kind.leaf.readLiteral "1.1e1".toList = .ok (.decimal ⟨false, 11, 0, by decide, by decide⟩) := rfl
  have less : route.kind.leaf.readLiteral "9.99".toList = .ok (.decimal ⟨false, 999, 2, by decide, by decide⟩) := rfl
  have same : route.kind.leaf.readLiteral " \"1_1\"".toList = .ok (.decimal ⟨false, 11, 0, by decide, by decide⟩) := rfl
  have inside : schema.answer? .and "total" ("10" ++ "&" ++ "1.1e1") entity = some true := rfl
  obtain ⟨_, wider, _⟩ :=
    compile_intervals schema "total" route .and entity resolved ranged (admits _ (.present (.scalar (.decimal _))))
      "10" "1.1e1" _ _ ten eleven
  obtain ⟨_, _, crossed⟩ :=
    compile_intervals schema "total" route .and missing resolved ranged (admits _ (.absent _)) "1.1e1" "10" _ _ eleven
      ten
  obtain ⟨both, upward, downward⟩ := wider "9.99" " \"1_1\"" _ _ less same rfl rfl inside
  obtain ⟨nothing, contrary⟩ := crossed rfl
  exact ⟨inside, both, upward, downward, nothing, contrary rfl⟩

end TokenFilter
