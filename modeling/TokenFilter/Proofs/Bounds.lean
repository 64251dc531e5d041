import TokenFilter.Proofs.Alphabets
import TokenFilter.Proofs.Quoting

set_option autoImplicit false

namespace TokenFilter

namespace Token

theorem bound_some (cs : List Char) (named : Text.trim cs ≠ []) : bound? cs = some (Text.trim cs) := by
  unfold bound?
  split
  · rename_i empty
    exact absurd empty named
  · rfl

theorem bound_alike (cs other : List Char) (same : Text.trim cs = Text.trim other) : bound? cs = bound? other := by
  rw [← bound_trim, same, bound_trim]

theorem uncalled (cs : List Char) (plain : '(' ∉ cs) : call? cs = none := by
  rw [Option.eq_none_iff_forall_ne_some]
  intro call called
  obtain ⟨_, _, rfl⟩ := (call_eq_some_iff cs call).mp called
  simp [Call.chars] at plain

section Plain

variable (context : Context) (levels : Nat)

theorem read_uncalled (cs : List Char) (plain : '(' ∉ cs) :
    readWithin context levels cs = readPositive context (Text.trim cs) none := by
  have none : call? (Text.trim cs) = none := uncalled _ fun inside => plain (Text.trim_subset cs inside)
  have positive : Positive cs := by
    rw [Positive, none]
    rfl
  rw [read_positive_text context positive levels, none]

theorem read_value (cs : List Char) (plain : '(' ∉ cs) (undivided : '&' ∉ cs) :
    readWithin context levels cs = .ok (.literal (unquoted (Text.trim cs))) := by
  have whole : Plain context (Text.trim cs) := fun _ inside => undivided (Text.trim_subset cs inside)
  rw [read_uncalled context levels cs plain, read_plain context _ none whole]
  simp [function?, literalText]

theorem read_between (lower upper : List Char) (ranged : context.ranged = true) (plain : '(' ∉ lower)
    (plain' : '(' ∉ upper) (undivided : '&' ∉ lower) (undivided' : '&' ∉ upper) :
    readWithin context levels (lower ++ '&' :: upper) = .ok (.range (bound? lower) (bound? upper)) := by
  have whole : '(' ∉ lower ++ '&' :: upper := by
    simp [plain, plain']
  have bounds := read_range_bounds (Text.trimLeft lower) (Text.trimRight upper)
    (fun inside => undivided ((Text.trim_left_back lower).subset inside))
    (fun inside => undivided' ((Text.trim_right_front upper).subset inside))
  rw [bound_alike _ _ (Text.trim_trim_left lower), bound_alike _ _ (Text.trim_trim_right upper)] at bounds
  rw [read_uncalled context levels _ whole, Text.trim_apart lower upper '&' (by decide)]
  simpa [readPositive, ranged] using bounds

end Plain

theorem read_bounds (kind : Kind) (lower upper : String) (ranged : kind.isRanged = true) (plain : '(' ∉ lower.toList)
    (plain' : '(' ∉ upper.toList) (undivided : '&' ∉ lower.toList) (undivided' : '&' ∉ upper.toList) :
    read (.ofKind kind) (lower ++ "&" ++ upper) = .ok (.range (bound? lower.toList) (bound? upper.toList)) := by
  have between := read_between (.ofKind kind) negationLimit lower.toList upper.toList ranged plain plain' undivided
    undivided'
  rw [read, String.toList_append, String.toList_append, List.append_assoc]
  exact between

end Token

theorem unquoted_cases (cs : List Char) :
    Token.unquoted cs = cs ∨ cs = '"' :: (Token.unquoted cs ++ ['"']) := by
  unfold Token.unquoted
  split
  · rename_i rest
    split
    · rename_i last
      exact .inr (by rw [List.dropLast_append_getLast? _ last])
    · exact .inl rfl
  · exact .inl rfl

-- A literal as it may stand by itself or at an end of a range: it reads alike when it is trimmed and when it is then
-- taken out of quotes.
structure Kind.Endpoint (kind : Kind) (cs : List Char) (value : Value) : Prop where
  named : Text.trim cs ≠ []
  plain : '(' ∉ cs
  undivided : '&' ∉ cs
  trimmed : kind.readLiteral (Text.trim cs) = .ok value
  unquoted : kind.readLiteral (Token.unquoted (Text.trim cs)) = .ok value

section Readers

variable {α ε : Type} (reader : List Char → Except ε α) {wrap : α → Value} {fault : List Char → ε → LiteralFault}
  {kind : Kind} {cs : List Char} {value : Value} (nothing : ∃ e, reader [] = .error e)
  (literal : kind.readLiteral cs = .ok value)
include nothing literal

theorem number_endpoint (reads : ∀ cs, kind.readLiteral cs = ((reader (Literal.bare cs)).map wrap).mapError (fault cs))
    (sorts : ∀ cs a, reader cs = .ok a → ∀ c ∈ cs, Text.isNumberChar c = true) : kind.Endpoint cs value := by
  have again : ∀ other, Literal.bare other = Literal.bare cs → kind.readLiteral other = .ok value := by
    intro other same
    rw [reads, read_with_iff] at literal ⊢
    rwa [same]
  obtain ⟨a, read, _⟩ := (read_with_iff _ _ _ _).mp ((reads cs).symm.trans literal)
  have number := sorts _ a read
  have absent : ∀ c, Text.isNumberChar c = false → c ≠ '"' → Text.isBlank c = false → c ∉ cs := by
    intro c other unquote solid
    refine Text.trim_absent c cs solid ?_
    have outside : c ∉ Literal.bare cs := by
      intro inside
      rw [number c inside] at other
      cases other
    rcases unquoted_cases (Text.trim cs) with fixed | quoted
    · rwa [← fixed]
    · change c ∉ Token.unquoted (Text.trim cs) at outside
      rw [quoted]
      simpa [unquote] using outside
  have unquoted := again _ (Text.number_bare _ number)
  refine ⟨?_, absent '(' rfl (by decide) (by decide), absent '&' rfl (by decide) (by decide), ?_, unquoted⟩
  · intro empty
    rw [Literal.bare, empty, show Token.unquoted [] = [] from rfl] at read
    obtain ⟨e, failed⟩ := nothing
    cases read.symm.trans failed
  · refine again _ ?_
    rw [Literal.bare, Text.trim_trim]
    rfl

theorem moment_endpoint (reads : ∀ cs, kind.readLiteral cs = ((reader (Text.trim cs)).map wrap).mapError (fault cs))
    (sorts : ∀ cs a, reader cs = .ok a → ∀ c ∈ cs, Text.isMomentChar c = true) : kind.Endpoint cs value := by
  obtain ⟨a, read, _⟩ := (read_with_iff _ _ _ _).mp ((reads cs).symm.trans literal)
  have trimmed : kind.readLiteral (Text.trim cs) = .ok value := by
    rw [reads, read_with_iff] at literal ⊢
    rwa [Text.trim_trim]
  have absent : ∀ c, Text.isMomentChar c = false → c ∉ Text.trim cs := by
    intro c other inside
    rw [sorts _ a read c inside] at other
    cases other
  have unquoted : Token.unquoted (Text.trim cs) = Text.trim cs := by
    refine (unquoted_fixed_iff _).mpr ?_
    intro inner quoted
    exact absent '"' (by decide) (by simp [quoted])
  refine ⟨?_, Text.trim_absent '(' cs (by decide) (absent '(' (by decide)),
    Text.trim_absent '&' cs (by decide) (absent '&' (by decide)), trimmed, by rw [unquoted]; exact trimmed⟩
  intro empty
  rw [empty] at read
  obtain ⟨e, failed⟩ := nothing
  cases read.symm.trans failed

end Readers

theorem ranged_endpoint (kind : Kind) (cs : List Char) (value : Value) (ranged : kind.isRanged = true)
    (literal : kind.readLiteral cs = .ok value) : kind.Endpoint cs value := by
  induction kind using Kind.nonNull.induct with
  | case1 inner ih =>
      obtain ⟨named, plain, undivided, trimmed, unquoted⟩ := ih ranged literal
      exact ⟨named, plain, undivided, trimmed, unquoted⟩
  | case2 kind notNull =>
      cases kind with
      | date => exact moment_endpoint Calendar.readDate ⟨_, rfl⟩ literal (fun _ => rfl) Calendar.date_chars
      | dateTime => exact moment_endpoint Calendar.readDateTime ⟨_, rfl⟩ literal (fun _ => rfl) Calendar.date_time_chars
      | dateTimeOffset =>
          have sorts := Calendar.offset_date_time_chars
          exact moment_endpoint Calendar.readOffsetDateTime ⟨_, rfl⟩ literal (fun _ => rfl) sorts
      | decimal => exact number_endpoint Decimal.read ⟨_, rfl⟩ literal (fun _ => rfl) Decimal.read_chars
      | float => exact number_endpoint Binary.read ⟨_, rfl⟩ literal (fun _ => rfl) Binary.read_chars
      | int => exact number_endpoint Integer.readInt64 ⟨_, rfl⟩ literal (fun _ => rfl) Integer.int64_chars
      | uint => exact number_endpoint Integer.readUInt64 ⟨_, rfl⟩ literal (fun _ => rfl) Integer.uint64_chars
      | nullable inner => exact absurd rfl (notNull inner)
      | bool => cases ranged
      | guid => cases ranged
      | text => cases ranged
      | enumeration e => cases ranged
      | keyed k => cases ranged
      | list item => cases ranged
      | record schema => cases ranged
      | unsupported => cases ranged

def Path.Route.asking (route : Path.Route) (leaf : Target → Predicate) : Predicate :=
  match route.kind.item? with
  | some item => .exists (.field route.ref) (item.guard .item (leaf .item))
  | none => route.kind.guard (.field route.ref) (leaf (.field route.ref))

namespace Path.Route

variable (route : Path.Route)

def equal (value : Value) : Predicate :=
  route.asking fun target => .compare target .eq value (Policy.ofKind route.kind.leaf)

def atLeast (low : Value) : Predicate :=
  route.asking fun target => .compare target .gte low (Policy.ofKind route.kind.leaf)

def atMost (high : Value) : Predicate :=
  route.asking fun target => .compare target .lte high (Policy.ofKind route.kind.leaf)

def between (low high : Value) : Predicate :=
  route.asking fun target => .range target (some low) (some high) (Policy.ofKind route.kind.leaf)

end Path.Route

theorem reading_asking (route : Path.Route) (token : Token) (leaf : Target → Predicate)
    (built : ∀ target, token.predicate? route.kind.leaf target = some (route.kind.leaf.guard target (leaf target))) :
    Reading.predicate? ⟨route, [token]⟩ = some (route.asking leaf) := by
  unfold Reading.predicate? Path.Route.asking
  cases collection : route.kind.item? with
  | none =>
      rw [route.kind.leaf_plain collection] at built
      simp [alternatives?, built, Predicate.foldOr, Predicate.fold]
  | some item =>
      rw [route.kind.leaf_item item collection] at built
      simp [alternatives?, built, Predicate.foldOr, Predicate.fold]

theorem ranged_not_text (kind : Kind) (ranged : kind.isRanged = true) : kind.isText = false := by
  rw [Bool.eq_false_iff]
  intro textual
  rw [text_not_ranged kind textual] at ranged
  cases ranged

section Leaves

variable (kind : Kind) (target : Target) (cs other : List Char) (low high : Value)

theorem value_predicate (plain : kind.isText = false) (read : kind.readLiteral cs = .ok low) :
    Token.predicate? kind target (.literal cs) =
      some (kind.guard target (.compare target .eq low (Policy.ofKind kind))) := by
  rw [predicate_literal, read]
  simp [Except.toOption, Kind.literalLeaf, plain]

theorem lower_predicate (read : kind.readLiteral cs = .ok low) :
    Token.predicate? kind target (.range (some cs) none) =
      some (kind.guard target (.compare target .gte low (Policy.ofKind kind))) := by
  rw [predicate_lower, read]
  rfl

theorem upper_predicate (read : kind.readLiteral cs = .ok high) :
    Token.predicate? kind target (.range none (some cs)) =
      some (kind.guard target (.compare target .lte high (Policy.ofKind kind))) := by
  rw [predicate_upper, read]
  rfl

theorem between_predicate (read : kind.readLiteral cs = .ok low) (read' : kind.readLiteral other = .ok high) :
    Token.predicate? kind target (.range (some cs) (some other)) =
      some (kind.guard target (.range target (some low) (some high) (Policy.ofKind kind))) := by
  rw [predicate_between, read, read']
  rfl

end Leaves

namespace Calendar

theorem Date.compare_iff (a b : Date) : a.compare b = .eq ↔ a = b := by
  rw [Date.compare, Int.compare_eq_eq]
  exact ⟨a.place_inj b, fun same => by rw [same]⟩

end Calendar

theorem widened_eq_iff (actual literal : Value) :
    (compareEq .numericWiden actual literal).getD false = true ↔
      compareOrder .numericWiden actual literal = some .eq := by
  rw [numeric_eq, numeric_order]

theorem policy_eq_iff (kind : Kind) (actual literal : Value) (ranged : kind.isRanged = true)
    (scalar : ScalarOf kind.nonNull literal) :
    (compareEq (Policy.ofKind kind) actual literal).getD false = true ↔
      compareOrder (Policy.ofKind kind) actual literal = some .eq := by
  unfold Kind.isRanged Kind.isTemporal Kind.isNumeric at ranged
  unfold Policy.ofKind
  generalize kind.nonNull = inner at *
  cases scalar with
  | date d =>
      show (compareEq .strict actual (.date d)).getD false = true ↔ actual.compareStrict (.date d) = some .eq
      rw [strict_eq]
      cases actual with
      | date e => simp [Value.same, Value.compareStrict, Calendar.Date.compare_iff]
      | _ => simp [Value.same, Value.compareStrict]
  | dateTime d =>
      show (compareEq .dateTruncate actual (.dateTime d)).getD false = true ↔
        compareOrder .dateTruncate actual (.dateTime d) = some .eq
      rw [truncated_eq, truncated_order]
      cases actual.date? <;> simp [Calendar.Date.compare_iff]
  | dateTimeOffset d =>
      show (compareEq .strict actual (.dateTimeOffset d)).getD false = true ↔
        actual.compareStrict (.dateTimeOffset d) = some .eq
      rw [strict_eq]
      cases actual <;> simp [Value.same, Value.compareStrict, Calendar.OffsetDateTime.same]
  | decimal d => exact widened_eq_iff actual _
  | float x => exact widened_eq_iff actual _
  | int n => exact widened_eq_iff actual _
  | uint n => exact widened_eq_iff actual _
  | bool b => cases ranged
  | guid g => cases ranged
  | text s => cases ranged
  | enumeration e variant => cases ranged
  | keyed k member key => cases ranged

theorem both_iff_eq (order : Option Ordering) :
    (order.any Ordering.isGE && order.any Ordering.isLE) = true ↔ order = some .eq := by
  cases order with
  | none => simp
  | some order => cases order <;> simp

theorem value_between (kind : Kind) (target : Target) (value : Value) (scope : Scope) (ranged : kind.isRanged = true)
    (scalar : ScalarOf kind.nonNull value) :
    (Predicate.compare target .eq value (Policy.ofKind kind)).holdsIn scope =
      (Predicate.range target (some value) (some value) (Policy.ofKind kind)).holdsIn scope := by
  have same : ∀ actual, Comparison.holds .eq (Policy.ofKind kind) actual value =
      (aboveLower (Policy.ofKind kind) actual (some value) && belowUpper (Policy.ofKind kind) actual (some value)) := by
    intro actual
    rw [Bool.eq_iff_iff]
    exact (policy_eq_iff kind actual value ranged scalar).trans (both_iff_eq _).symm
  rw [Predicate.holdsIn, Predicate.holdsIn]
  simp only [same]

theorem between_halves (target : Target) (low high : Value) (policy : Policy) (scope : Scope) :
    (Predicate.range target (some low) (some high) policy).holdsIn scope =
      ((Predicate.compare target .gte low policy).holdsIn scope &&
        (Predicate.compare target .lte high policy).holdsIn scope) := by
  rw [Predicate.holdsIn, Predicate.holdsIn, Predicate.holdsIn]
  cases scope.read target with
  | none => rfl
  | some actual => rfl

theorem guard_alike (kind : Kind) (target : Target) (leaf other : Predicate) (scope : Scope)
    (same : leaf.holdsIn scope = other.holdsIn scope) :
    (kind.guard target leaf).holdsIn scope = (kind.guard target other).holdsIn scope := by
  unfold Kind.guard
  split
  · rw [Predicate.holdsIn, Predicate.holdsIn, same]
  · exact same

theorem guard_both (kind : Kind) (target : Target) (leaf lower upper : Predicate) (scope : Scope)
    (both : leaf.holdsIn scope = (lower.holdsIn scope && upper.holdsIn scope)) :
    (kind.guard target leaf).holdsIn scope =
      ((kind.guard target lower).holdsIn scope && (kind.guard target upper).holdsIn scope) := by
  unfold Kind.guard
  split
  · rw [Predicate.holdsIn, Predicate.holdsIn, Predicate.holdsIn, both]
    cases (scope.read target).any fun value => !value.isNull <;> rfl
  · exact both

theorem asking_alike (route : Path.Route) (leaf other : Target → Predicate)
    (same : ∀ target scope, (leaf target).holdsIn scope = (other target).holdsIn scope) :
    (route.asking leaf).Equivalent (route.asking other) := by
  intro entity
  unfold Path.Route.asking Predicate.holds
  split
  · rename_i item _
    simp only [Predicate.holdsIn, guard_alike item .item _ _ _ (same .item _)]
  · exact guard_alike _ _ _ _ _ (same _ _)

section Fields

variable (schema : Schema) (path : String) (route : Path.Route) (combination : Combination)
  (resolved : schema.resolve path = .ok route)
include resolved

theorem compile_asking (text : String) (token : Token) (leaf : Target → Predicate)
    (read : Token.read (.ofKind route.kind.leaf) text = .ok token)
    (built : ∀ target, token.predicate? route.kind.leaf target = some (route.kind.leaf.guard target (leaf target))) :
    (compile schema [⟨path, [text]⟩] combination).result = .ok (some (route.asking leaf)) := by
  rw [compile_single schema path text route token combination resolved read, reading_asking route token leaf built]

variable (ranged : route.kind.leaf.isRanged = true)
include ranged

theorem compile_value (v : String) (value : Value) (literal : route.kind.leaf.readLiteral v.toList = .ok value) :
    (compile schema [⟨path, [v]⟩] combination).result = .ok (some (route.equal value)) := by
  have ends := ranged_endpoint _ _ value ranged literal
  refine compile_asking schema path route combination resolved v _ _
    (Token.read_value _ _ v.toList ends.plain ends.undivided) ?_
  intro target
  exact value_predicate _ target _ value (ranged_not_text _ ranged) ends.unquoted

theorem compile_lower (a : String) (low : Value) (literal : route.kind.leaf.readLiteral a.toList = .ok low) :
    (compile schema [⟨path, [a ++ "&"]⟩] combination).result = .ok (some (route.atLeast low)) := by
  have ends := ranged_endpoint _ _ low ranged literal
  have read := Token.read_bounds route.kind.leaf a "" ranged ends.plain (by simp) ends.undivided (by simp)
  rw [String.append_empty, Token.bound_some _ ends.named] at read
  refine compile_asking schema path route combination resolved _ _ _ read ?_
  intro target
  exact lower_predicate _ target _ low ends.trimmed

theorem compile_upper (b : String) (high : Value) (literal : route.kind.leaf.readLiteral b.toList = .ok high) :
    (compile schema [⟨path, ["&" ++ b]⟩] combination).result = .ok (some (route.atMost high)) := by
  have ends := ranged_endpoint _ _ high ranged literal
  have read := Token.read_bounds route.kind.leaf "" b ranged (by simp) ends.plain (by simp) ends.undivided
  rw [String.empty_append, Token.bound_some _ ends.named] at read
  refine compile_asking schema path route combination resolved _ _ _ read ?_
  intro target
  exact upper_predicate _ target _ high ends.trimmed

theorem compile_between (a b : String) (low high : Value) (literal : route.kind.leaf.readLiteral a.toList = .ok low)
    (literal' : route.kind.leaf.readLiteral b.toList = .ok high) :
    (compile schema [⟨path, [a ++ "&" ++ b]⟩] combination).result = .ok (some (route.between low high)) := by
  have ends := ranged_endpoint _ _ low ranged literal
  have ends' := ranged_endpoint _ _ high ranged literal'
  have read := Token.read_bounds route.kind.leaf a b ranged ends.plain ends'.plain ends.undivided ends'.undivided
  rw [Token.bound_some _ ends.named, Token.bound_some _ ends'.named] at read
  refine compile_asking schema path route combination resolved _ _ _ read ?_
  intro target
  exact between_predicate _ target _ _ low high ends.trimmed ends'.trimmed

-- For a field of a ranged kind, or one whose items are of one: a value asks what the range from it to itself asks. A
-- field that is no collection lies in a range just if it lies in both halves of it.
theorem compile_bounds :
    (∀ v value, route.kind.leaf.readLiteral v.toList = .ok value →
      (compile schema [⟨path, [v]⟩] combination).result = .ok (some (route.equal value)) ∧
      (compile schema [⟨path, [v ++ "&" ++ v]⟩] combination).result = .ok (some (route.between value value)) ∧
      ∀ entity, (route.equal value).holds entity = (route.between value value).holds entity) ∧
    ∀ a b low high, route.kind.leaf.readLiteral a.toList = .ok low → route.kind.leaf.readLiteral b.toList = .ok high →
      (compile schema [⟨path, [a ++ "&" ++ b]⟩] combination).result = .ok (some (route.between low high)) ∧
      (compile schema [⟨path, [a ++ "&"]⟩] combination).result = .ok (some (route.atLeast low)) ∧
      (compile schema [⟨path, ["&" ++ b]⟩] combination).result = .ok (some (route.atMost high)) ∧
      (route.kind.item? = none → ∀ entity, (route.between low high).holds entity =
        ((route.atLeast low).holds entity && (route.atMost high).holds entity)) := by
  constructor
  · intro v value literal
    refine ⟨compile_value schema path route combination resolved ranged v value literal,
      compile_between schema path route combination resolved ranged v v value value literal literal, ?_⟩
    refine asking_alike route _ _ ?_
    intro target scope
    exact value_between _ target value scope ranged (read_literal_scalar _ _ value literal)
  · intro a b low high literal literal'
    refine ⟨compile_between schema path route combination resolved ranged a b low high literal literal',
      compile_lower schema path route combination resolved ranged a low literal,
      compile_upper schema path route combination resolved ranged b high literal', ?_⟩
    intro plain entity
    unfold Path.Route.between Path.Route.atLeast Path.Route.atMost Path.Route.asking
    rw [plain]
    exact guard_both _ _ _ _ _ _ (between_halves _ low high _ _)

end Fields

theorem compile_bounds_of_orders :
    let schema : Schema := ⟨"orders", "Order", [⟨"Total", .nullable .decimal⟩]⟩
    let route : Path.Route := ⟨["Total"], [0], .nullable .decimal⟩
    let ten : Value := .decimal ⟨false, 10, 0, by decide, by decide⟩
    let twenty : Value := .decimal ⟨false, 20, 0, by decide, by decide⟩
    let entity : Entity := fun slot => [.int 10][slot]?
    schema.resolve "total" = .ok route ∧ route.kind.leaf.isRanged = true ∧
      (compile schema [⟨"total", [" \"1_0\""]⟩] .and).result = .ok (some (route.equal ten)) ∧
      (compile schema [⟨"total", [" \"1_0\"" ++ "&" ++ "2e1 "]⟩] .and).result = .ok (some (route.between ten twenty)) ∧
      (route.equal ten).holds entity = (route.between ten ten).holds entity ∧
      (route.between ten twenty).holds entity =
        ((route.atLeast ten).holds entity && (route.atMost twenty).holds entity) ∧
      (route.equal ten).holds entity = true := by
  intro schema route ten twenty entity
  have resolved : schema.resolve "total" = .ok route := rfl
  have ranged : route.kind.leaf.isRanged = true := rfl
  have low : route.kind.leaf.readLiteral " \"1_0\"".toList = .ok ten := rfl
  have high : route.kind.leaf.readLiteral "2e1 ".toList = .ok twenty := rfl
  obtain ⟨points, ranges⟩ := compile_bounds schema "total" route .and resolved ranged
  obtain ⟨value, _, same⟩ := points " \"1_0\"" ten low
  obtain ⟨between, _, _, halves⟩ := ranges " \"1_0\"" "2e1 " ten twenty low high
  exact ⟨resolved, ranged, value, between, same entity, halves rfl entity, rfl⟩

end TokenFilter
