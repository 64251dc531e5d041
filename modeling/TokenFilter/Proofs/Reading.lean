import TokenFilter.Compile
import TokenFilter.Proofs.Outcome

/-
Compilation in two stages. First every path is resolved and every token read, which may fail; then
the predicate is built from what was read, which cannot.
-/

set_option autoImplicit false

namespace TokenFilter

def Kind.leaf (kind : Kind) : Kind := kind.item?.getD kind

theorem Kind.leaf_plain (kind : Kind) (plain : kind.item? = none) : kind.leaf = kind := by
  rw [leaf, plain, Option.getD_none]

theorem Kind.leaf_item (kind item : Kind) (collection : kind.item? = some item) : kind.leaf = item := by
  rw [leaf, collection, Option.getD_some]

structure Reading where
  route : Path.Route
  tokens : List Token

namespace SchemaOf

def readEntry (schema : Schema) (entry : Entry) : Except Error Reading :=
  (schema.resolve entry.path).bind fun route =>
    (entry.tokens.mapM (Token.read (.ofKind route.kind.leaf))).map fun tokens => ⟨route, tokens⟩

def isKnown (schema : Schema) (entry : Entry) : Bool := (schema.headField? entry.path).isSome

def readQuery (schema : Schema) (query : Query) : Except Error (List Reading) :=
  (query.filter schema.isKnown).mapM schema.readEntry

end SchemaOf

def Token.predicate? (kind : Kind) (target : Target) (token : Token) : Option Predicate :=
  (token.predicate kind target).toOption

def alternatives? (kind : Kind) (target : Target) (tokens : List Token) : Option Predicate :=
  Predicate.foldOr (tokens.filterMap (Token.predicate? kind target))

def Reading.predicate? (reading : Reading) : Option Predicate :=
  match reading.route.kind.item? with
  | some item => (alternatives? item .item reading.tokens).map (.exists (.field reading.route.ref))
  | none => alternatives? reading.route.kind (.field reading.route.ref) reading.tokens

def Kind.reads (kind : Kind) (cs : List Char) : Bool := (kind.readLiteral cs).toOption.isSome

theorem reads_literal (kind : Kind) (cs : List Char) (value : Value) (read : kind.readLiteral cs = .ok value) :
    kind.reads cs = true := by
  rw [Kind.reads, read]
  rfl

-- Whether a token asks something of a field of the kind: its literals have to be readable, and a
-- range has to have a bound.
def Token.survives (kind : Kind) : Token → Bool
  | .not inner => inner.survives kind
  | .range none none => false
  | .range lower upper => lower.all kind.reads && upper.all kind.reads
  | .function _ _ => true
  | .literal cs => kind.reads cs

def Reading.surviving (reading : Reading) : List Token :=
  reading.tokens.filter (Token.survives reading.route.kind.leaf)

def SchemaOf.contributes (schema : Schema) (entry : Entry) : Bool :=
  schema.isKnown entry && (schema.readEntry entry).toOption.any fun reading => !reading.surviving.isEmpty

theorem read_entry_ok_iff (schema : Schema) (entry : Entry) (reading : Reading) :
    schema.readEntry entry = .ok reading ↔
      schema.resolve entry.path = .ok reading.route ∧
        entry.tokens.mapM (Token.read (.ofKind reading.route.kind.leaf)) = .ok reading.tokens := by
  rw [SchemaOf.readEntry]
  cases schema.resolve entry.path with
  | error e => simp [Except.bind]
  | ok route =>
      obtain ⟨found, tokens⟩ := reading
      change (entry.tokens.mapM (Token.read (.ofKind route.kind.leaf))).map _ = _ ↔ _
      rw [except_map_ok_iff]
      constructor
      · intro passed
        obtain ⟨read, readTokens, same⟩ := passed
        cases same
        exact ⟨rfl, readTokens⟩
      · intro passed
        obtain ⟨same, readTokens⟩ := passed
        cases same
        exact ⟨tokens, readTokens, rfl⟩

theorem reduce_option_map {α β : Type} (f : α → Option β) (as : List α) :
    (as.map f).reduceOption = as.filterMap f := by
  change (as.map f).filterMap id = as.filterMap f
  rw [List.filterMap_map]
  rfl

theorem compile_token_result (field : String) (kind : Kind) (target : Target) (text : String) :
    (compileToken field kind target text).result =
      (Token.read (.ofKind kind) text).map (Token.predicate? kind target) := by
  unfold compileToken
  rw [Logged.result_bind, Logged.result_of_except]
  cases Token.read (.ofKind kind) text with
  | error e => rfl
  | ok token =>
      simp only [Except.bind, Except.map, Token.predicate?]
      cases token.predicate kind target <;> rfl

theorem compile_tokens_result (field : String) (kind : Kind) (target : Target) (texts : List String) :
    (compileTokens field kind target texts).result =
      (texts.mapM (Token.read (.ofKind kind))).map (alternatives? kind target) := by
  unfold compileTokens
  simp only [Logged.result_bind, Logged.result_map_m, compile_token_result, map_m_map]
  cases texts.mapM (Token.read (.ofKind kind)) with
  | error e => rfl
  | ok tokens => simp [Except.bind, Except.map, Logged.result_pure, alternatives?, reduce_option_map]

theorem report_result {α : Type} (x : Compiling (Option α)) (event : Event) :
    (do
      let built ← x
      if built.isNone then
        Logged.log [event]
      return built : Compiling (Option α)).result = x.result := by
  rw [Logged.result_bind]
  cases x.result with
  | error e => rfl
  | ok built => cases built <;> rfl

theorem compile_entry_result (schema : Schema) (field : Field) (entry : Entry) :
    (schema.compileEntry field entry).result = (schema.readEntry entry).map Reading.predicate? := by
  unfold SchemaOf.compileEntry SchemaOf.readEntry
  rw [Logged.result_bind, Logged.result_of_except]
  cases schema.resolve entry.path with
  | error e => rfl
  | ok route =>
      cases collection : route.kind.item? with
      | none =>
          simp only [Except.bind, collection]
          rw [report_result, compile_tokens_result]
          rw [route.kind.leaf_plain collection]
          cases entry.tokens.mapM (Token.read (.ofKind route.kind)) <;>
            simp [Except.map, Reading.predicate?, collection]
      | some item =>
          simp only [Except.bind, collection]
          rw [report_result, Logged.result_map, compile_tokens_result]
          rw [route.kind.leaf_item item collection]
          cases entry.tokens.mapM (Token.read (.ofKind item)) <;>
            simp [Except.map, Reading.predicate?, collection]

theorem known_entries_snd (schema : Schema) (query : Query) :
    (schema.knownEntries query).map Prod.snd = query.filter schema.isKnown := by
  unfold SchemaOf.knownEntries
  induction query with
  | nil => rfl
  | cons entry rest ih =>
      cases head : schema.headField? entry.path <;> simp [SchemaOf.isKnown, head, ih]

theorem compile_result (schema : Schema) (query : Query) (combination : Combination) :
    (compile schema query combination).result =
      (schema.readQuery query).map fun readings =>
        combination.fold (readings.filterMap Reading.predicate?) := by
  have entries : ((schema.knownEntries query).mapM fun known =>
      schema.compileEntry known.1 known.2).result =
        (schema.readQuery query).map (List.map Reading.predicate?) := by
    rw [Logged.result_map_m]
    simp only [compile_entry_result]
    rw [map_m_map, SchemaOf.readQuery, ← known_entries_snd, List.mapM_map]
    rfl
  unfold compile
  rw [Logged.result_bind, Logged.result_log, Logged.result_bind]
  simp only [Except.bind]
  rw [entries]
  cases schema.readQuery query with
  | error e => rfl
  | ok readings =>
      simp only [Except.map, reduce_option_map]
      cases combination.fold (readings.filterMap Reading.predicate?) <;> rfl

theorem read_or_drop_option (kind : Kind) (cs : List Char) :
    (kind.readOrDrop cs).toOption = (kind.readLiteral cs).toOption := by
  unfold Kind.readOrDrop
  cases kind.readLiteral cs <;> rfl

theorem predicate_not (kind : Kind) (target : Target) (inner : Token) :
    Token.predicate? kind target (.not inner) = (inner.predicate? kind target).map .not := by
  simp only [Token.predicate?, Token.predicate]
  cases inner.predicate kind target <;> rfl

theorem predicate_literal (kind : Kind) (target : Target) (cs : List Char) :
    Token.predicate? kind target (.literal cs) =
      (kind.readLiteral cs).toOption.map fun value => kind.guard target (kind.literalLeaf target value) := by
  simp only [Token.predicate?, Token.predicate, ← read_or_drop_option]
  cases kind.readOrDrop cs <;> rfl

theorem predicate_function (kind : Kind) (target : Target) (fn : TextFunction) (argument : List Char) :
    Token.predicate? kind target (.function fn argument) =
      some (kind.guard target (.function target fn (.text (String.ofList argument)))) := rfl

theorem predicate_lower (kind : Kind) (target : Target) (lower : List Char) :
    Token.predicate? kind target (.range (some lower) none) =
      (kind.readLiteral lower).toOption.map fun value =>
        kind.guard target (.compare target .gte value (Policy.ofKind kind)) := by
  simp only [Token.predicate?, Token.predicate, Kind.rangeLeaf, ← read_or_drop_option]
  cases kind.readOrDrop lower <;> rfl

theorem predicate_upper (kind : Kind) (target : Target) (upper : List Char) :
    Token.predicate? kind target (.range none (some upper)) =
      (kind.readLiteral upper).toOption.map fun value =>
        kind.guard target (.compare target .lte value (Policy.ofKind kind)) := by
  simp only [Token.predicate?, Token.predicate, Kind.rangeLeaf, ← read_or_drop_option]
  cases kind.readOrDrop upper <;> rfl

theorem predicate_between (kind : Kind) (target : Target) (lower upper : List Char) :
    Token.predicate? kind target (.range (some lower) (some upper)) =
      (kind.readLiteral lower).toOption.bind fun low => (kind.readLiteral upper).toOption.map fun high =>
        kind.guard target (.range target (some low) (some high) (Policy.ofKind kind)) := by
  simp only [Token.predicate?, Token.predicate, Kind.rangeLeaf, ← read_or_drop_option]
  cases kind.readOrDrop lower <;> cases kind.readOrDrop upper <;> rfl

theorem predicate_is_some (kind : Kind) (target : Target) (token : Token) :
    (token.predicate? kind target).isSome = token.survives kind := by
  induction token with
  | not inner ih => simp [predicate_not, Token.survives, ih]
  | range lower upper =>
      cases lower with
      | none =>
          cases upper with
          | none => rfl
          | some upper => simp [predicate_upper, Token.survives, Kind.reads]
      | some lower =>
          cases upper with
          | none => simp [predicate_lower, Token.survives, Kind.reads]
          | some upper =>
              rw [predicate_between]
              cases low : (kind.readLiteral lower).toOption <;> simp [Token.survives, Kind.reads, low]
  | function fn argument => rfl
  | literal cs => simp [predicate_literal, Token.survives, Kind.reads]

theorem fold_is_some (join : List Predicate → Predicate) (parts : List Predicate) :
    (Predicate.fold join parts).isSome = !parts.isEmpty := by
  match parts with
  | [] => rfl
  | [_] => rfl
  | _ :: _ :: _ => rfl

theorem alternatives_is_some (kind : Kind) (target : Target) (tokens : List Token) :
    (alternatives? kind target tokens).isSome = !(tokens.filter (Token.survives kind)).isEmpty := by
  rw [alternatives?, Predicate.foldOr, fold_is_some, Bool.eq_iff_iff]
  simp only [Bool.not_eq_true', List.isEmpty_eq_false_iff, ne_eq, List.filterMap_eq_nil_iff, List.filter_eq_nil_iff,
    ← predicate_is_some kind target, Bool.not_eq_true, Option.isSome_eq_false_iff, Option.isNone_iff_eq_none]

theorem reading_is_some (reading : Reading) : reading.predicate?.isSome = !reading.surviving.isEmpty := by
  unfold Reading.predicate? Reading.surviving Kind.leaf
  cases reading.route.kind.item? with
  | none => exact alternatives_is_some reading.route.kind _ reading.tokens
  | some item => rw [Option.isSome_map]; exact alternatives_is_some item .item reading.tokens

end TokenFilter
