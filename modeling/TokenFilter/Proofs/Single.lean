import TokenFilter.Proofs.Agreement
import TokenFilter.Proofs.Printing

set_option autoImplicit false

namespace TokenFilter

def Path.Route.Offers (route : Path.Route) (entity : Entity) (value : Value) : Prop :=
  match route.kind.item? with
  | none => entity.read route.slots = some value
  | some _ => ∃ items, entity.read route.slots = some (.list items) ∧ value ∈ items

def SchemaOf.answer? (schema : Schema) (combination : Combination) (path text : String) (entity : Entity) :
    Option Bool :=
  match (compile schema [⟨path, [text]⟩] combination).result with
  | .ok (some p) => some (p.holds entity)
  | _ => none

theorem resolved_known (schema : Schema) (path : String) (route : Path.Route)
    (resolved : schema.resolve path = .ok route) : schema.Knows path := by
  rw [schema.knows_iff, Option.isSome_iff_ne_none]
  intro missing
  unfold SchemaOf.resolve at resolved
  cases rest : (Path.segments path).tail <;> simp [rest, Path.follow, missing] at resolved

section Single

variable (schema : Schema) (path text : String) (route : Path.Route) (token : Token) (combination : Combination)
  (resolved : schema.resolve path = .ok route) (read : Token.read (.ofKind route.kind.leaf) text = .ok token)
include resolved read

theorem read_single : schema.readEntry ⟨path, [text]⟩ = .ok ⟨route, [token]⟩ :=
  (read_entry_ok_iff schema _ _).mpr ⟨resolved, (map_m_ok_iff _ _ _).mpr (.cons read .nil)⟩

theorem compile_single :
    (compile schema [⟨path, [text]⟩] combination).result = .ok (Reading.predicate? ⟨route, [token]⟩) := by
  have known : schema.isKnown ⟨path, [text]⟩ = true :=
    (schema.is_known_iff ⟨path, [text]⟩).mpr (resolved_known schema path route resolved)
  have readings : schema.readQuery [⟨path, [text]⟩] = .ok [⟨route, [token]⟩] := by
    rw [SchemaOf.readQuery, List.filter_cons_of_pos known]
    exact (map_m_ok_iff _ _ _).mpr (.cons (read_single schema path text route token resolved read) .nil)
  rw [compile_result, readings]
  cases built : Reading.predicate? ⟨route, [token]⟩ <;> simp [Except.map, built, combination_fold, Predicate.fold]

theorem single_holds (survives : token.survives route.kind.leaf = true) :
    ∃ p, (compile schema [⟨path, [text]⟩] combination).result = .ok (some p) ∧
      ∀ entity, p.holds entity = true ↔ route.Matches entity token := by
  have surviving : Reading.surviving ⟨route, [token]⟩ = [token] := by
    simp [Reading.surviving, survives]
  have fits := read_entry_fits schema _ _ (read_single schema path text route token resolved read)
  obtain ⟨p, built⟩ := Option.isSome_iff_exists.mp ((reading_is_some ⟨route, [token]⟩).trans (by rw [surviving]; rfl))
  refine ⟨p, by rw [compile_single schema path text route token combination resolved read, built], ?_⟩
  intro entity
  have holds := reading_holds ⟨route, [token]⟩ p ⟨entity, none⟩ (reading_shape _ p fits built)
  rw [SchemaOf.reading_matches_iff, surviving] at holds
  rw [Predicate.holds]
  simpa using holds

theorem single_answer (survives : token.survives route.kind.leaf = true) (entity : Entity) :
    ∃ answer, schema.answer? combination path text entity = some answer ∧
      (answer = true ↔ route.Matches entity token) := by
  obtain ⟨p, compiled, holds⟩ := single_holds schema path text route token combination resolved read survives
  refine ⟨p.holds entity, ?_, holds entity⟩
  rw [SchemaOf.answer?, compiled]

end Single

theorem not_matches (route : Path.Route) (entity : Entity) (token : Token) (plain : route.kind.item? = none) :
    route.Matches entity (.not token) ↔ ¬ route.Matches entity token := by
  unfold Path.Route.Matches
  rw [plain]
  rfl

theorem Token.read_negated (context : Context) (text : String) :
    read context ("not(" ++ text ++ ")") = (readWithin context 31 text.toList).map .not := by
  have chars : ("not(" ++ text ++ ")").toList = Call.chars ⟨"not".toList, text.toList⟩ := by
    simp [Call.chars]
  rw [read, chars]
  exact read_not context 31 text.toList

-- Of a field that is no collection a token in a negation says the contrary; it has to be one within a negation too,
-- where one more is around it.
theorem negated_answer (schema : Schema) (path text : String) (route : Path.Route) (token : Token)
    (combination : Combination) (resolved : schema.resolve path = .ok route)
    (read : Token.read (.ofKind route.kind.leaf) text = .ok token)
    (within : Token.readWithin (.ofKind route.kind.leaf) 31 text.toList = .ok token)
    (survives : token.survives route.kind.leaf = true) (plain : route.kind.item? = none) (entity : Entity) :
    schema.answer? combination path ("not(" ++ text ++ ")") entity =
      (schema.answer? combination path text entity).map (!·) := by
  have negated : Token.read (.ofKind route.kind.leaf) ("not(" ++ text ++ ")") = .ok (.not token) := by
    rw [Token.read_negated, within]
    rfl
  obtain ⟨answer, given, holds⟩ := single_answer schema path _ route _ combination resolved read survives entity
  obtain ⟨contrary, given', holds'⟩ := single_answer schema path _ route _ combination resolved negated survives entity
  rw [not_matches route entity token plain, ← holds, Bool.not_eq_true] at holds'
  rw [given, given', Option.map_some, Option.some.injEq, Bool.eq_iff_iff, holds', Bool.not_eq_true']

theorem such_offered (route : Path.Route) (entity : Entity) (token : Token) (ask : Value → Prop)
    (asks : ∀ value, token.Matches route.kind.leaf value ↔ route.kind.leaf.HasSuch value ask) :
    route.Matches entity token ↔
      ∃ value, route.Offers entity value ∧ (route.kind.leaf.isNullable = true → value.isNull = false) ∧ ask value := by
  unfold Path.Route.Matches Path.Route.Offers
  cases collection : route.kind.item? with
  | none =>
      rw [route.kind.leaf_plain collection] at asks ⊢
      exact asks _
  | some item =>
      rw [route.kind.leaf_item item collection] at asks ⊢
      constructor
      · intro matched
        obtain ⟨items, read, value, member, here⟩ := matched
        obtain ⟨_, here, such⟩ := (asks _).mp here
        cases here
        exact ⟨value, ⟨items, read, member⟩, such⟩
      · intro matched
        obtain ⟨value, ⟨items, read, member⟩, such⟩ := matched
        exact ⟨items, read, value, member, (asks _).mpr ⟨value, rfl, such⟩⟩

theorem text_not_ranged (kind : Kind) (textual : kind.isText = true) : kind.isRanged = false := by
  simp [Kind.isRanged, Kind.isTemporal, Kind.isNumeric, text_non_null kind textual]

namespace Token

theorem unranged_plain (kind : Kind) (cs : List Char) (unranged : kind.isRanged = false) : Plain (.ofKind kind) cs := by
  intro ranged
  exact absurd ranged (by simp [Context.ofKind, unranged])

theorem read_unranged (kind : Kind) (s : String) (unranged : kind.isRanged = false) :
    read (.ofKind kind) ("\"" ++ s ++ "\"") = .ok (.literal s.toList) := by
  have chars : ("\"" ++ s ++ "\"").toList = (literal s.toList).chars := by
    simp [Token.chars]
  rw [read, chars]
  exact read_literal_again _ _ _ (unranged_plain kind _ unranged)

variable (kind : Kind) (textual : kind.isText = true)
include textual

theorem read_quoted (s : String) : read (.ofKind kind) ("\"" ++ s ++ "\"") = .ok (.literal s.toList) :=
  read_unranged kind s (text_not_ranged kind textual)

theorem read_function (fn : TextFunction) (s : String) :
    read (.ofKind kind) (fn.name ++ "(" ++ s ++ ")") = .ok (.function fn s.toList) := by
  have chars : (fn.name ++ "(" ++ s ++ ")").toList = (function fn s.toList).chars := by
    simp [Token.chars, Call.chars]
  obtain ⟨someName, letters, _⟩ := function_name_letters fn
  have called : call? (function fn s.toList).chars = some ⟨fn.name.toList, s.toList⟩ :=
    (call_eq_some_iff _ _).mpr ⟨someName, letters, rfl⟩
  have found : function? (.ofKind kind) (call? (function fn s.toList).chars) = some (.function fn s.toList) := by
    simp [called, function?, Context.ofKind, textual, function_of_name]
  rw [read, chars]
  exact read_function_again _ _ _ _ (unranged_plain kind _ (text_not_ranged kind textual)) found

end Token

end TokenFilter
