import TokenFilter.Proofs.Literals
import TokenFilter.Proofs.Reading
import TokenFilter.Proofs.Tokens

/-
The shape of compiled predicates: which node stands for which part of the query. Every other fact
about compiled predicates can be read off this shape.
-/

set_option autoImplicit false

namespace TokenFilter

inductive LeafShape (kind : Kind) (target : Target) : Token → Predicate → Prop where
  | contains {cs : List Char} {s : String} (textual : kind.isText = true)
      (read : kind.readLiteral cs = .ok (.text s)) : LeafShape kind target (.literal cs) (.contains target (.text s))
  | function {fn : TextFunction} {argument : List Char} (textual : kind.isText = true) :
      LeafShape kind target (.function fn argument) (.function target fn (.text (String.ofList argument)))
  | equal {cs : List Char} {value : Value} (other : kind.isText = false) (read : kind.readLiteral cs = .ok value) :
      LeafShape kind target (.literal cs) (.compare target .eq value (Policy.ofKind kind))
  | atLeast {lower : List Char} {low : Value} (ranged : kind.isRanged = true)
      (read : kind.readLiteral lower = .ok low) :
      LeafShape kind target (.range (some lower) none) (.compare target .gte low (Policy.ofKind kind))
  | atMost {upper : List Char} {high : Value} (ranged : kind.isRanged = true)
      (read : kind.readLiteral upper = .ok high) :
      LeafShape kind target (.range none (some upper)) (.compare target .lte high (Policy.ofKind kind))
  | between {lower upper : List Char} {low high : Value} (ranged : kind.isRanged = true)
      (readLow : kind.readLiteral lower = .ok low) (readHigh : kind.readLiteral upper = .ok high) :
      LeafShape kind target (.range (some lower) (some upper))
        (.range target (some low) (some high) (Policy.ofKind kind))

inductive TokenShape (kind : Kind) (target : Target) : Nat → Token → Predicate → Prop where
  | leaf {token : Token} {leaf : Predicate} (shape : LeafShape kind target token leaf) :
      TokenShape kind target 0 token (if kind.isNullable then .guarded target leaf else leaf)
  | not {levels : Nat} {token : Token} {p : Predicate} (inner : TokenShape kind target levels token p) :
      TokenShape kind target (levels + 1) (.not token) (.not p)

-- One part for each element, alone if it is the only one.
inductive Joined {α : Type} (join : List Predicate → Predicate) (shape : α → Predicate → Prop) :
    List α → Predicate → Prop where
  | alone {a : α} {p : Predicate} (only : shape a p) : Joined join shape [a] p
  | together {as : List α} {ps : List Predicate} (several : 2 ≤ as.length) (each : List.Forall₂ shape as ps) :
      Joined join shape as (join ps)

def Alternatives (kind : Kind) (target : Target) : List Token → Predicate → Prop :=
  Joined .or fun token p => ∃ levels ≤ Token.negationLimit, TokenShape kind target levels token p

inductive ReadingShape (reading : Reading) : Predicate → Prop where
  | scalar {p : Predicate} (plain : reading.route.kind.item? = none)
      (tokens : Alternatives reading.route.kind (.field reading.route.ref) reading.surviving p) :
      ReadingShape reading p
  | collection {item : Kind} {p : Predicate} (items : reading.route.kind.item? = some item)
      (tokens : Alternatives item .item reading.surviving p) :
      ReadingShape reading (.exists (.field reading.route.ref) p)

def SchemaOf.EntryShape (schema : Schema) (entry : Entry) (p : Predicate) : Prop :=
  ∃ reading, schema.readEntry entry = .ok reading ∧ ReadingShape reading p

def Combination.join : Combination → List Predicate → Predicate
  | .and => .and
  | .or => .or

theorem combination_fold (combination : Combination) (parts : List Predicate) :
    combination.fold parts = Predicate.fold combination.join parts := by
  cases combination <;> rfl

theorem fold_joined {α : Type} (join : List Predicate → Predicate) (shape : α → Predicate → Prop)
    (as : List α) (ps : List Predicate) (p : Predicate) (each : List.Forall₂ shape as ps)
    (folded : Predicate.fold join ps = some p) : Joined join shape as p := by
  cases each with
  | nil => cases folded
  | cons first rest =>
      cases rest with
      | nil =>
          cases folded
          exact .alone first
      | cons second others =>
          cases folded
          exact .together (by simp) (.cons first (.cons second others))

-- What holds of all parts, in whatever form it is carried over to what they are joined to.
theorem joined_parts {α : Type} {join : List Predicate → Predicate} {shape : α → Predicate → Prop} {as : List α}
    {p : Predicate} (part whole : Predicate → Prop) (joined : Joined join shape as p)
    (each : ∀ a ∈ as, ∀ q, shape a q → part q) (alone : ∀ q, part q → whole q)
    (together : ∀ ps, 2 ≤ ps.length → (∀ q ∈ ps, part q) → whole (join ps)) : whole p := by
  cases joined with
  | @alone a _ only => exact alone p (each a List.mem_cons_self p only)
  | @together _ ps several shaped =>
      refine together ps (shaped.length_eq ▸ several) ?_
      intro q member
      obtain ⟨a, memberA, here⟩ := forall_mem_right shaped q member
      exact each a memberA q here

theorem to_option_some {ε α : Type} (x : Except ε α) (a : α) : x.toOption = some a ↔ x = .ok a := by
  cases x <;> simp [Except.toOption]

theorem literal_shape (kind : Kind) (target : Target) (cs : List Char) (value : Value)
    (read : kind.readLiteral cs = .ok value) :
    LeafShape kind target (.literal cs) (kind.literalLeaf target value) := by
  cases textual : kind.isText with
  | true =>
      obtain ⟨s, rfl⟩ := read_literal_text kind cs value textual read
      simp only [Kind.literalLeaf, textual, if_true]
      exact .contains textual read
  | false =>
      simp only [Kind.literalLeaf, textual, Bool.false_eq_true, if_false]
      exact .equal textual read

theorem token_shape (kind : Kind) (target : Target) (levels : Nat) (token : Token) (p : Predicate)
    (fits : token.Fits (.ofKind kind) levels) (built : token.predicate? kind target = some p) :
    ∃ negations ≤ levels, TokenShape kind target negations token p := by
  induction token generalizing levels p with
  | not inner ih =>
      cases levels with
      | zero => exact fits.elim
      | succ levels =>
          rw [predicate_not] at built
          obtain ⟨q, builtInner, rfl⟩ := Option.map_eq_some_iff.mp built
          obtain ⟨negations, bound, shape⟩ := ih levels q fits builtInner
          exact ⟨negations + 1, Nat.succ_le_succ bound, .not shape⟩
  | range lower upper =>
      have ranged : kind.isRanged = true := by cases levels <;> exact fits
      refine ⟨0, Nat.zero_le _, ?_⟩
      cases lower with
      | none =>
          cases upper with
          | none => cases built
          | some upper =>
              rw [predicate_upper] at built
              obtain ⟨high, read, rfl⟩ := Option.map_eq_some_iff.mp built
              exact .leaf (.atMost ranged ((to_option_some _ _).mp read))
      | some lower =>
          cases upper with
          | none =>
              rw [predicate_lower] at built
              obtain ⟨low, read, rfl⟩ := Option.map_eq_some_iff.mp built
              exact .leaf (.atLeast ranged ((to_option_some _ _).mp read))
          | some upper =>
              rw [predicate_between] at built
              obtain ⟨low, readLow, rest⟩ := Option.bind_eq_some_iff.mp built
              obtain ⟨high, readHigh, rfl⟩ := Option.map_eq_some_iff.mp rest
              exact .leaf (.between ranged ((to_option_some _ _).mp readLow) ((to_option_some _ _).mp readHigh))
  | function fn argument =>
      have textual : kind.isText = true := by cases levels <;> exact fits
      rw [predicate_function] at built
      cases built
      exact ⟨0, Nat.zero_le _, .leaf (.function textual)⟩
  | literal cs =>
      rw [predicate_literal] at built
      obtain ⟨value, read, rfl⟩ := Option.map_eq_some_iff.mp built
      exact ⟨0, Nat.zero_le _, .leaf (literal_shape kind target cs value ((to_option_some _ _).mp read))⟩

theorem alternatives_shape (kind : Kind) (target : Target) (tokens : List Token) (p : Predicate)
    (fit : ∀ token ∈ tokens, token.Fits (.ofKind kind) Token.negationLimit)
    (built : alternatives? kind target tokens = some p) :
    Alternatives kind target (tokens.filter (Token.survives kind)) p := by
  refine fold_joined .or _ _ _ p ?_ built
  have each : List.Forall₂ (fun token other => token = other ∧ token ∈ tokens) tokens tokens :=
    List.forall₂_same.mpr fun token member => ⟨rfl, member⟩
  refine forall_filter_map _ _ each ?_ ?_
  · intro token other same
    obtain ⟨rfl, _⟩ := same
    exact predicate_is_some kind target token
  · intro token other same q builtToken
    obtain ⟨rfl, member⟩ := same
    exact token_shape kind target Token.negationLimit token q (fit token member) builtToken

theorem read_entry_fits (schema : Schema) (entry : Entry) (reading : Reading)
    (read : schema.readEntry entry = .ok reading) :
    ∀ token ∈ reading.tokens, token.Fits (.ofKind reading.route.kind.leaf) Token.negationLimit := by
  obtain ⟨_, readTokens⟩ := (read_entry_ok_iff schema entry reading).mp read
  have each := (map_m_ok_iff _ _ _).mp readTokens
  intro token member
  obtain ⟨text, _, passed⟩ := forall_mem_right each token member
  exact Token.read_fits _ text token passed

theorem reading_shape (reading : Reading) (p : Predicate)
    (fit : ∀ token ∈ reading.tokens, token.Fits (.ofKind reading.route.kind.leaf) Token.negationLimit)
    (built : reading.predicate? = some p) : ReadingShape reading p := by
  unfold Reading.predicate? at built
  cases collection : reading.route.kind.item? with
  | none =>
      have leaf := reading.route.kind.leaf_plain collection
      rw [collection] at built
      rw [leaf] at fit
      refine .scalar collection ?_
      rw [Reading.surviving, leaf]
      exact alternatives_shape reading.route.kind (.field reading.route.ref) reading.tokens p fit built
  | some item =>
      have leaf := reading.route.kind.leaf_item item collection
      rw [collection] at built
      rw [leaf] at fit
      obtain ⟨q, builtItems, rfl⟩ := Option.map_eq_some_iff.mp built
      refine .collection collection ?_
      rw [Reading.surviving, leaf]
      exact alternatives_shape item .item reading.tokens q fit builtItems

theorem contributing_known (schema : Schema) (query : Query) :
    query.filter schema.contributes = (query.filter schema.isKnown).filter schema.contributes := by
  rw [List.filter_filter]
  congr 1
  funext entry
  cases known : schema.isKnown entry <;> simp [SchemaOf.contributes, known]

theorem compile_parts (schema : Schema) (query : Query) (combination : Combination) (result : Option Predicate)
    (compiled : (compile schema query combination).result = .ok result) :
    ∃ parts, Predicate.fold combination.join parts = result ∧
      List.Forall₂ schema.EntryShape (query.filter schema.contributes) parts := by
  rw [compile_result, except_map_ok_iff] at compiled
  obtain ⟨readings, read, folded⟩ := compiled
  rw [combination_fold] at folded
  refine ⟨_, folded, ?_⟩
  have each : List.Forall₂ (fun entry reading => schema.isKnown entry = true ∧ schema.readEntry entry = .ok reading)
      (query.filter schema.isKnown) readings :=
    (List.forall₂_and_left _ _).mpr ⟨fun entry member => (List.mem_filter.mp member).2, (map_m_ok_iff _ _ _).mp read⟩
  rw [contributing_known]
  refine forall_filter_map _ _ each ?_ ?_
  · intro entry reading wasRead
    obtain ⟨known, readEntry⟩ := wasRead
    simp [reading_is_some, SchemaOf.contributes, known, readEntry, Except.toOption]
  · intro entry reading wasRead q built
    obtain ⟨_, readEntry⟩ := wasRead
    exact ⟨reading, readEntry, reading_shape reading q (read_entry_fits schema entry reading readEntry) built⟩

theorem compile_shaped (schema : Schema) (query : Query) (combination : Combination) (p : Predicate)
    (compiled : (compile schema query combination).result = .ok (some p)) :
    Joined combination.join schema.EntryShape (query.filter schema.contributes) p := by
  obtain ⟨parts, folded, each⟩ := compile_parts schema query combination (some p) compiled
  exact fold_joined combination.join schema.EntryShape _ parts p each folded

end TokenFilter
