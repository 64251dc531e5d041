import TokenFilter.Proofs.Single

set_option autoImplicit false

namespace TokenFilter

def Path.Route.containing (route : Path.Route) (word : String) : Predicate :=
  match route.kind.item? with
  | some item => .exists (.field route.ref) (item.guard .item (.contains .item (.text word)))
  | none => route.kind.guard (.field route.ref) (.contains (.field route.ref) (.text word))

def Text.Quoted (s : String) : Prop := ∃ inner : String, s = "\"" ++ inner ++ "\""

theorem read_text (kind : Kind) (cs : List Char) (textual : kind.isText = true) :
    kind.readLiteral cs = .ok (.text (String.ofList (Literal.bare cs))) := by
  have bare := text_non_null kind textual
  fun_induction Kind.nonNull kind with
  | case1 inner ih => exact ih textual bare
  | case2 kind plain =>
      subst bare
      rfl

theorem text_predicate (kind : Kind) (target : Target) (cs : List Char) (textual : kind.isText = true) :
    Token.predicate? kind target (.literal cs) =
      some (kind.guard target (.contains target (.text (String.ofList (Literal.bare cs))))) := by
  rw [predicate_literal, read_text kind cs textual]
  simp [Except.toOption, Kind.literalLeaf, textual]

theorem text_reading (route : Path.Route) (cs : List Char) (textual : route.kind.leaf.isText = true) :
    Reading.predicate? ⟨route, [.literal cs]⟩ = some (route.containing (String.ofList (Literal.bare cs))) := by
  unfold Reading.predicate? Path.Route.containing
  cases collection : route.kind.item? with
  | none =>
      rw [route.kind.leaf_plain collection] at textual
      simp [alternatives?, text_predicate route.kind _ cs textual, Predicate.foldOr, Predicate.fold]
  | some item =>
      rw [route.kind.leaf_item item collection] at textual
      simp [alternatives?, text_predicate item _ cs textual, Predicate.foldOr, Predicate.fold]

namespace Text

theorem trim_fixed_iff (cs : List Char) : trim cs = cs ↔ Begins cs ∧ Ends cs := by
  constructor
  · intro fixed
    rw [← fixed]
    exact ⟨trim_begins cs, trim_ends cs⟩
  · intro solid
    exact trim_fixed cs solid.1 solid.2

theorem trim_sublist (cs : List Char) : (trim cs).Sublist cs :=
  (trim_right_front (trimLeft cs)).sublist.trans (trim_left_back cs).sublist

end Text

theorem unquoted_sublist (cs : List Char) : (Token.unquoted cs).Sublist cs := by
  unfold Token.unquoted
  split
  · split
    · exact (List.dropLast_sublist _).trans (List.sublist_cons_self _ _)
    · exact List.Sublist.refl _
  · exact List.Sublist.refl _

theorem unquoted_fixed_iff (cs : List Char) : Token.unquoted cs = cs ↔ ∀ inner, cs ≠ '"' :: (inner ++ ['"']) := by
  constructor
  · intro fixed inner quoted
    rw [quoted] at fixed
    have shorter := congrArg List.length fixed
    simp [Token.unquoted] at shorter
    omega
  · intro bare
    unfold Token.unquoted
    split
    · rename_i rest
      split
      · rename_i last
        refine absurd ?_ (bare rest.dropLast)
        rw [List.dropLast_append_getLast? _ last]
      · rfl
    · rfl

-- Neither step makes a text longer, so one that comes out as it was has passed both unchanged.
theorem bare_fixed_iff (cs : List Char) :
    Literal.bare cs = cs ↔ Text.Begins cs ∧ Text.Ends cs ∧ ∀ inner, cs ≠ '"' :: (inner ++ ['"']) := by
  rw [← and_assoc, ← Text.trim_fixed_iff, ← unquoted_fixed_iff]
  constructor
  · intro fixed
    have whole : cs.length ≤ (Text.trim cs).length := by
      have shorter := (unquoted_sublist (Text.trim cs)).length_le
      rw [Literal.bare] at fixed
      rwa [fixed] at shorter
    have trimmed : Text.trim cs = cs := (Text.trim_sublist cs).eq_of_length_le whole
    refine ⟨trimmed, ?_⟩
    rwa [Literal.bare, trimmed] at fixed
  · intro fixed
    obtain ⟨trimmed, unquoted⟩ := fixed
    rw [Literal.bare, trimmed, unquoted]

theorem bare_quoted (cs : List Char) : Literal.bare (Token.literal cs).chars = cs := by
  obtain ⟨begins, ends⟩ := Token.quoted_solid cs
  rw [Literal.bare, Text.trim_fixed _ begins ends, Token.unquoted_quoted]

theorem quoted_chars (s : String) : Text.Quoted s ↔ ∃ inner, s.toList = '"' :: (inner ++ ['"']) := by
  constructor
  · intro quoted
    obtain ⟨inner, rfl⟩ := quoted
    exact ⟨inner.toList, by simp⟩
  · intro quoted
    obtain ⟨inner, chars⟩ := quoted
    refine ⟨String.ofList inner, ?_⟩
    rw [← String.toList_inj, chars]
    simp

-- The token is the literal between the quotes, whatever it is; what is looked for is that text once more trimmed and
-- taken out of quotes, and it is the text itself just if it has no white space at its ends and no quotes around it.
theorem compile_quoted (schema : Schema) (path : String) (route : Path.Route) (s : String) (combination : Combination)
    (resolved : schema.resolve path = .ok route) (textual : route.kind.leaf.isText = true) :
    Token.read (.ofKind route.kind.leaf) ("\"" ++ s ++ "\"") = .ok (.literal s.toList) ∧
      (compile schema [⟨path, ["\"" ++ s ++ "\""]⟩] combination).result =
        .ok (some (route.containing (String.ofList (Literal.bare s.toList)))) ∧
      (String.ofList (Literal.bare s.toList) = s ↔
        Text.Begins s.toList ∧ Text.Ends s.toList ∧ ¬ Text.Quoted s) := by
  have read := Token.read_quoted route.kind.leaf textual s
  refine ⟨read, ?_, ?_⟩
  · rw [compile_single schema path _ route _ combination resolved read, text_reading route s.toList textual]
  · rw [quoted_chars, not_exists, ← bare_fixed_iff, ← String.toList_inj, String.toList_ofList]

theorem compile_quoted_of_people :
    let schema : Schema := ⟨"people", "Person", [⟨"Tags", .nullable (.list (.nullable .text))⟩]⟩
    let route : Path.Route := ⟨["Tags"], [0], .nullable (.list (.nullable .text))⟩
    schema.resolve "tags" = .ok route ∧ route.kind.leaf.isText = true ∧
      (compile schema [⟨"tags", ["\"not(a\"&\"b)\""]⟩] .or).result =
        .ok (some (route.containing "not(a\"&\"b)")) := by
  intro schema route
  have resolved : schema.resolve "tags" = .ok route := rfl
  have textual : route.kind.leaf.isText = true := rfl
  exact ⟨resolved, textual, (compile_quoted schema "tags" route "not(a\"&\"b)" .or resolved textual).2.1⟩

-- Inner quotes are removed as well, and so is white space between the quotes.
theorem quoted_word_changed :
    let schema : Schema := ⟨"people", "Person", [⟨"Name", .text⟩]⟩
    let route : Path.Route := ⟨["Name"], [0], .text⟩
    (compile schema [⟨"name", ["\"\"ann\"\""]⟩] .and).result = .ok (some (route.containing "ann")) ∧
      (compile schema [⟨"name", ["\" ann \""]⟩] .and).result = .ok (some (route.containing "ann")) ∧
      route.containing "ann" ≠ route.containing "\"ann\"" ∧ route.containing "ann" ≠ route.containing " ann " := by
  intro schema route
  refine ⟨rfl, rfl, ?_, ?_⟩
  · simp [route, Path.Route.containing, Kind.item?, Kind.nonNull, Kind.guard, Kind.isNullable]
  · simp [route, Path.Route.containing, Kind.item?, Kind.nonNull, Kind.guard, Kind.isNullable]

end TokenFilter
