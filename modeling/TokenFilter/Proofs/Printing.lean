import TokenFilter.Proofs.Tokens
import TokenFilter.Proofs.Trimming

set_option autoImplicit false

namespace TokenFilter.Token

def Call.chars (call : Call) : List Char := call.name ++ '(' :: (call.argument ++ [')'])

def chars : Token → List Char
  | .not inner => Call.chars ⟨"not".toList, inner.chars⟩
  | .range lower upper => lower.getD [] ++ '&' :: upper.getD []
  | .function fn argument => Call.chars ⟨fn.name.toList, argument⟩
  | .literal cs => '"' :: (cs ++ ['"'])

def negations : Token → Nat
  | .not inner => inner.negations + 1
  | _ => 0

def IsBound (cs : List Char) : Prop := cs ≠ [] ∧ Text.trim cs = cs ∧ '&' ∉ cs

def Plain (context : Context) (cs : List Char) : Prop := context.ranged = true → '&' ∉ cs

def Proper (context : Context) : Token → Prop
  | .not inner => inner.Proper context
  | .range lower upper => context.ranged = true ∧ (∀ cs ∈ lower, IsBound cs) ∧ ∀ cs ∈ upper, IsBound cs
  | .function _ _ => context.textual = true
  | .literal cs => Plain context cs

theorem call_eq_some_iff (cs : List Char) (call : Call) :
    call? cs = some call ↔ call.name ≠ [] ∧ (∀ c ∈ call.name, c.isAlpha = true) ∧ cs = call.chars := by
  constructor
  · intro found
    unfold call? at found
    dsimp only at found
    split at found
    · cases found
    · rename_i rest after named
      split at found
      · rename_i last
        cases found
        have letters : ∀ c ∈ cs.takeWhile Char.isAlpha, c.isAlpha = true := by
          intro c inside
          exact List.mem_takeWhile_imp inside
        refine ⟨named, letters, ?_⟩
        rw [Call.chars, List.dropLast_append_getLast? _ last, ← after, List.takeWhile_append_dropWhile]
      · cases found
    · cases found
  · intro shape
    obtain ⟨named, letters, rfl⟩ := shape
    have first : call.chars.takeWhile Char.isAlpha = call.name := by
      simp [Call.chars, List.takeWhile_append_of_pos letters]
    have after : call.chars.dropWhile Char.isAlpha = '(' :: (call.argument ++ [')']) := by
      simp [Call.chars, List.dropWhile_append_of_pos letters]
    unfold call?
    rw [first, after]
    simp

theorem negated_none_iff (call : Call) : negated? (some call) = none ↔ call.isNamed "not" = false := by
  simp [negated?]

theorem prefix_before {α : Type} (front a b : List α) (x : α) (here : front <+: a ++ x :: b) (absent : x ∉ front) :
    front <+: a := by
  obtain ⟨rest, same⟩ := here
  rcases List.append_eq_append_iff.mp same with ⟨more, rfl, _⟩ | ⟨more, rfl, tail⟩
  · exact List.prefix_append front more
  · cases more with
    | nil => simp
    | cons y others =>
        obtain ⟨rfl, _⟩ := List.cons.inj tail
        exact absurd (by simp) absent

theorem suffix_after {α : Type} (back a b : List α) (x : α) (here : back <:+ a ++ x :: b) (absent : x ∉ back) :
    back <:+ b := by
  have turned : back.reverse <+: b.reverse ++ x :: a.reverse := by
    simpa using List.reverse_prefix.mpr here
  exact List.reverse_prefix.mp (prefix_before _ _ _ x turned (by simpa using absent))

-- What is called by a range that is written without white space around its bounds was called before.
theorem call_around (lower upper : List Char) (call : Call) (begins : Text.Begins lower) (ends : Text.Ends upper)
    (found : call? (Text.trim lower ++ '&' :: Text.trim upper) = some call) :
    ∃ argument, call? (lower ++ '&' :: upper) = some ⟨call.name, argument⟩ := by
  obtain ⟨named, letters, shape⟩ := (call_eq_some_iff _ _).mp found
  have absent : '&' ∉ call.name ++ ['('] := by
    intro inside
    rcases List.mem_append.mp inside with letter | bracket
    · exact absurd (letters '&' letter) (by decide)
    · simp at bracket
  have front : call.name ++ ['('] <+: lower := by
    refine (prefix_before _ _ (Text.trim upper) '&' ?_ absent).trans (Text.trim_front lower begins)
    exact ⟨call.argument ++ [')'], by simp [shape, Call.chars]⟩
  have back : [')'] <:+ upper := by
    refine (suffix_after _ (Text.trim lower) _ '&' ?_ (by decide)).trans (Text.trim_back upper ends)
    exact ⟨call.name ++ '(' :: call.argument, by simp [shape, Call.chars]⟩
  obtain ⟨rest, rfl⟩ := front
  obtain ⟨more, rfl⟩ := back
  exact ⟨rest ++ '&' :: more, (call_eq_some_iff _ _).mpr ⟨named, letters, by simp [Call.chars]⟩⟩

theorem split_on_free (a : Char) (cs : List Char) : ∀ part ∈ cs.splitOn a, a ∉ part := by
  induction cs with
  | nil => simp
  | cons c rest ih =>
      rw [List.splitOn_cons_eq_if_modifyHead]
      by_cases same : (c == a) = true
      · rw [if_pos same]
        simpa using ih
      · rw [if_neg same]
        cases parts : rest.splitOn a with
        | nil => exact absurd parts (List.splitOn_ne_nil a rest)
        | cons first others =>
            rw [parts] at ih
            have different : a ≠ c := by
              intro eq
              exact same (by simp [eq])
            simpa [different] using ih

theorem split_on_two (a : Char) (cs lower upper : List Char) (split : cs.splitOn a = [lower, upper]) :
    cs = lower ++ a :: upper ∧ a ∉ lower ∧ a ∉ upper := by
  have whole := @List.intercalate_splitOn Char cs _ _ a
  have free := split_on_free a cs
  rw [split] at whole free
  refine ⟨?_, free lower (by simp), free upper (by simp)⟩
  simpa [List.intercalate] using whole.symm

theorem read_within_positive (context : Context) (levels : Nat) (cs : List Char) (begins : Text.Begins cs)
    (ends : Text.Ends cs) (positive : negated? (call? cs) = none) :
    readWithin context levels cs = readPositive context cs (call? cs) := by
  cases levels <;> simp [readWithin, Text.trim_fixed cs begins ends, positive]

theorem bound_chars (cs : List Char) : (bound? cs).getD [] = Text.trim cs := by
  unfold bound?
  split
  · rename_i empty
    exact empty.symm
  · rfl

theorem bound_trim (cs : List Char) : bound? (Text.trim cs) = bound? cs := by
  unfold bound?
  rw [Text.trim_trim]

theorem bound_proper (cs bound : List Char) (free : '&' ∉ cs) (found : bound? cs = some bound) : IsBound bound := by
  unfold bound? at found
  split at found
  · cases found
  · rename_i named
    cases found
    refine ⟨named, Text.trim_trim cs, ?_⟩
    intro inside
    exact free (Text.trim_subset cs inside)

theorem read_range_inv (cs : List Char) (token : Token) (read : readRange cs = .ok token) :
    ∃ lower upper, cs = lower ++ '&' :: upper ∧ '&' ∉ lower ∧ '&' ∉ upper ∧
      token = .range (bound? lower) (bound? upper) := by
  unfold readRange at read
  split at read
  · rename_i lower upper parts
    cases read
    obtain ⟨shape, freeLower, freeUpper⟩ := split_on_two '&' cs lower upper parts
    exact ⟨lower, upper, shape, freeLower, freeUpper, rfl⟩
  · cases read

theorem read_range_bounds (lower upper : List Char) (freeLower : '&' ∉ lower) (freeUpper : '&' ∉ upper) :
    readRange (lower ++ '&' :: upper) = .ok (.range (bound? lower) (bound? upper)) := by
  have parts : (lower ++ '&' :: upper).splitOn '&' = [lower, upper] := by
    rw [List.splitOn_append_cons_self_of_not_mem freeLower, List.splitOn_eq_singleton freeUpper]
  unfold readRange
  rw [parts]

theorem read_range_again (context : Context) (levels : Nat) (cs : List Char) (token : Token)
    (begins : Text.Begins cs) (ends : Text.Ends cs) (positive : negated? (call? cs) = none)
    (ranged : context.ranged = true) (read : readRange cs = .ok token) :
    readWithin context levels token.chars = .ok token := by
  obtain ⟨lower, upper, rfl, freeLower, freeUpper, rfl⟩ := read_range_inv cs token read
  have solid : Text.isBlank '&' = false := by decide
  have lowerBegins := (Text.begins_around lower upper '&' solid).mp begins
  have upperEnds := (Text.ends_around lower upper '&' solid).mp ends
  rw [chars, bound_chars, bound_chars]
  have stillPositive : negated? (call? (Text.trim lower ++ '&' :: Text.trim upper)) = none := by
    cases found : call? (Text.trim lower ++ '&' :: Text.trim upper) with
    | none => rfl
    | some call =>
        obtain ⟨argument, before⟩ := call_around lower upper call lowerBegins upperEnds found
        rw [before] at positive
        exact (negated_none_iff call).mpr ((negated_none_iff ⟨call.name, argument⟩).mp positive)
  rw [read_within_positive context levels _ ((Text.begins_around _ _ '&' solid).mpr (Text.trim_begins lower))
    ((Text.ends_around _ _ '&' solid).mpr (Text.trim_ends upper)) stillPositive]
  have bounds := read_range_bounds (Text.trim lower) (Text.trim upper)
    (fun inside => freeLower (Text.trim_subset lower inside)) (fun inside => freeUpper (Text.trim_subset upper inside))
  rw [bound_trim, bound_trim] at bounds
  simpa [readPositive, ranged] using bounds

theorem call_solid (call : Call) (begins : Text.Begins call.name) :
    Text.Begins call.chars ∧ Text.Ends call.chars := by
  refine ⟨(Text.begins_around _ _ '(' (by decide)).mpr begins, (Text.ends_around _ _ '(' (by decide)).mpr ?_⟩
  exact (Text.ends_around call.argument [] ')' (by decide)).mpr (by simp [Text.Ends])

theorem function_name_letters (fn : TextFunction) :
    fn.name.toList ≠ [] ∧ (∀ c ∈ fn.name.toList, c.isAlpha = true) ∧ Text.Begins fn.name.toList := by
  cases fn <;> simp [TextFunction.name, Text.Begins] <;> decide

theorem function_of_name (fn : TextFunction) : TextFunction.ofName? fn.name.toList = some fn := by
  cases fn <;> decide

theorem function_not_negation (fn : TextFunction) (argument : List Char) :
    Call.isNamed ⟨fn.name.toList, argument⟩ "not" = false := by
  cases fn <;> simp [TextFunction.name, Call.isNamed] <;> decide

theorem read_plain (context : Context) (cs : List Char) (call : Option Call) (plain : Plain context cs) :
    readPositive context cs call = .ok ((function? context call).getD (.literal (literalText cs call))) := by
  have unsplit : (context.ranged && cs.contains '&') = false := by simpa [Plain] using plain
  unfold readPositive
  rw [unsplit]
  cases function? context call <;> rfl

theorem plain_call_iff (context : Context) (call : Call) (letters : ∀ c ∈ call.name, c.isAlpha = true) :
    Plain context call.chars ↔ Plain context call.argument := by
  have absent : '&' ∉ call.name := by
    intro letter
    exact absurd (letters '&' letter) (by decide)
  simp [Plain, Call.chars, absent]

theorem read_function_again (context : Context) (levels : Nat) (cs : List Char) (token : Token)
    (plain : Plain context cs) (found : function? context (call? cs) = some token) :
    readWithin context levels token.chars = .ok token := by
  unfold function? at found
  split at found
  · rename_i textual
    obtain ⟨call, called, named⟩ := Option.bind_eq_some_iff.mp found
    obtain ⟨fn, _, rfl⟩ := Option.map_eq_some_iff.mp named
    obtain ⟨_, letters, rfl⟩ := (call_eq_some_iff _ _).mp called
    obtain ⟨someName, nameLetters, nameBegins⟩ := function_name_letters fn
    have calledAgain : call? (Call.chars ⟨fn.name.toList, call.argument⟩) = some ⟨fn.name.toList, call.argument⟩ :=
      (call_eq_some_iff _ _).mpr ⟨someName, nameLetters, rfl⟩
    have plainAgain : Plain context (Call.chars ⟨fn.name.toList, call.argument⟩) :=
      (plain_call_iff context _ nameLetters).mpr ((plain_call_iff context call letters).mp plain)
    have positive := (negated_none_iff _).mpr (function_not_negation fn call.argument)
    obtain ⟨begins, ends⟩ := call_solid ⟨fn.name.toList, call.argument⟩ nameBegins
    rw [chars, read_within_positive context levels _ begins ends (by rw [calledAgain]; exact positive)]
    rw [calledAgain, read_plain context _ _ plainAgain]
    simp [function?, textual, function_of_name]
  · cases found

theorem quoted_solid (cs : List Char) : Text.Begins (literal cs).chars ∧ Text.Ends (literal cs).chars :=
  ⟨(Text.begins_around [] _ '"' (by decide)).mpr (by simp [Text.Begins]),
    (Text.ends_around ('"' :: cs) [] '"' (by decide)).mpr (by simp [Text.Ends])⟩

theorem unquoted_quoted (cs : List Char) : unquoted (literal cs).chars = cs := by
  simp [unquoted, chars]

theorem read_literal_again (context : Context) (levels : Nat) (cs : List Char) (plain : Plain context cs) :
    readWithin context levels (literal cs).chars = .ok (.literal cs) := by
  have uncalled : call? (literal cs).chars = none := rfl
  obtain ⟨begins, ends⟩ := quoted_solid cs
  have plainQuoted : Plain context (literal cs).chars := by simpa [Plain, chars] using plain
  rw [read_within_positive context levels _ begins ends (by rw [uncalled]; rfl), uncalled,
    read_plain context _ _ plainQuoted]
  simp [function?, literalText, unquoted_quoted]

theorem read_not (context : Context) (levels : Nat) (inner : List Char) :
    readWithin context (levels + 1) (Call.chars ⟨"not".toList, inner⟩) = (readWithin context levels inner).map .not := by
  have called : call? (Call.chars ⟨"not".toList, inner⟩) = some ⟨"not".toList, inner⟩ :=
    (call_eq_some_iff _ _).mpr ⟨by simp, by simp, rfl⟩
  obtain ⟨begins, ends⟩ := call_solid ⟨"not".toList, inner⟩ (by simp [Text.Begins]; decide)
  have negated : negated? (call? (Call.chars ⟨"not".toList, inner⟩)) = some inner := by
    rw [called]
    rfl
  have trimmed : Text.trim (Call.chars ⟨"not".toList, inner⟩) = Call.chars ⟨"not".toList, inner⟩ :=
    Text.trim_fixed _ begins ends
  simp only [readWithin, trimmed, negated]

theorem unquoted_subset (cs : List Char) : unquoted cs ⊆ cs := by
  unfold unquoted
  split
  · rename_i rest
    split
    · intro c inside
      exact List.mem_cons_of_mem _ (List.dropLast_subset rest inside)
    · exact List.Subset.refl _
  · exact List.Subset.refl _

theorem argument_subset (cs : List Char) (call : Call) (called : call? cs = some call) : call.argument ⊆ cs := by
  obtain ⟨_, _, rfl⟩ := (call_eq_some_iff _ _).mp called
  intro c inside
  simp [Call.chars, inside]

theorem literal_text_subset (cs : List Char) : literalText cs (call? cs) ⊆ cs := by
  cases called : call? cs with
  | none => exact unquoted_subset cs
  | some call =>
      cases equals : call.isNamed "equals" with
      | false => simpa [literalText, equals] using unquoted_subset cs
      | true =>
          have argument := List.Subset.trans (Text.trim_subset call.argument) (argument_subset cs call called)
          have inner := List.Subset.trans (unquoted_subset _) argument
          simpa [literalText, equals] using inner

theorem read_positive_cases (context : Context) (cs : List Char) (call : Option Call) (token : Token)
    (read : readPositive context cs call = .ok token) :
    context.ranged = true ∧ readRange cs = .ok token ∨
      Plain context cs ∧ (function? context call = some token ∨ token = .literal (literalText cs call)) := by
  by_cases plain : Plain context cs
  · rw [read_plain context cs call plain] at read
    cases found : function? context call with
    | none =>
        rw [found] at read
        cases read
        exact .inr ⟨plain, .inr rfl⟩
    | some other =>
        rw [found] at read
        cases read
        exact .inr ⟨plain, .inl rfl⟩
  · simp only [Plain, Classical.not_imp, not_not] at plain
    obtain ⟨ranged, inside⟩ := plain
    refine .inl ⟨ranged, ?_⟩
    simpa [readPositive, ranged, inside] using read

theorem read_positive_again (context : Context) (levels : Nat) (text : List Char) (token : Token)
    (positive : negated? (call? (Text.trim text)) = none)
    (read : readPositive context (Text.trim text) (call? (Text.trim text)) = .ok token) :
    readWithin context levels token.chars = .ok token := by
  have begins := Text.trim_begins text
  have ends := Text.trim_ends text
  rcases read_positive_cases context _ _ token read with ⟨ranged, range⟩ | ⟨plain, function | rfl⟩
  · exact read_range_again context levels _ token begins ends positive ranged range
  · exact read_function_again context levels _ token plain function
  · exact read_literal_again context levels _ fun ranged inside => plain ranged (literal_text_subset _ inside)

theorem read_within_again (context : Context) (levels : Nat) (text : List Char) (token : Token)
    (read : readWithin context levels text = .ok token) : readWithin context levels token.chars = .ok token := by
  fun_induction readWithin context levels text generalizing token with
  | case1 text cs inner negated => cases read
  | case2 text cs positive => exact read_positive_again context 0 text token positive read
  | case3 levels text cs inner negated ih =>
      obtain ⟨deeper, readInner, rfl⟩ := (except_map_ok_iff _ _ _).mp read
      rw [chars, read_not, ih deeper readInner]
      rfl
  | case4 levels text cs positive => exact read_positive_again context (levels + 1) text token positive read

theorem read_positive_proper (context : Context) (cs : List Char) (token : Token)
    (read : readPositive context cs (call? cs) = .ok token) : token.Proper context := by
  rcases read_positive_cases context cs _ token read with ⟨ranged, range⟩ | ⟨plain, function | rfl⟩
  · obtain ⟨lower, upper, _, freeLower, freeUpper, rfl⟩ := read_range_inv cs token range
    refine ⟨ranged, ?_, ?_⟩
    · intro bound found
      exact bound_proper lower bound freeLower found
    · intro bound found
      exact bound_proper upper bound freeUpper found
  · obtain ⟨textual, fn, argument, rfl⟩ := function_some context (call? cs) token function
    exact textual
  · intro ranged inside
    exact plain ranged (literal_text_subset cs inside)

theorem read_within_proper (context : Context) (levels : Nat) (text : List Char) (token : Token)
    (read : readWithin context levels text = .ok token) : token.Proper context := by
  fun_induction readWithin context levels text generalizing token with
  | case1 text cs inner negated => cases read
  | case2 text cs positive => exact read_positive_proper context cs token read
  | case3 levels text cs inner negated ih =>
      obtain ⟨deeper, readInner, rfl⟩ := (except_map_ok_iff _ _ _).mp read
      exact ih deeper readInner
  | case4 levels text cs positive => exact read_positive_proper context cs token read

theorem fits_negations (context : Context) (levels : Nat) (token : Token) (fits : token.Fits context levels) :
    token.negations ≤ levels := by
  induction token generalizing levels with
  | not inner ih =>
      cases levels with
      | zero => exact fits.elim
      | succ levels => exact Nat.succ_le_succ (ih levels fits)
  | range lower upper => exact Nat.zero_le _
  | function fn argument => exact Nat.zero_le _
  | literal cs => exact Nat.zero_le _

-- A token that was read is written in a form that is read as the same token. It has at most 32 negations,
-- and the ranges, functions and literals in it are such as belong in its context.
theorem read_printed (context : Context) (text : String) (token : Token) (passed : read context text = .ok token) :
    read context (String.ofList token.chars) = .ok token ∧ token.negations ≤ 32 ∧ token.Proper context := by
  refine ⟨?_, fits_negations context 32 token (read_fits context text token passed), ?_⟩
  · rw [read, String.toList_ofList]
    exact read_within_again context negationLimit text.toList token passed
  · exact read_within_proper context negationLimit text.toList token passed

theorem read_printed_of_halves :
    let context : Context := .ofKind .int
    let token : Token := .not (.range (some ['i', 's', '(']) (some ['"', ')']))
    read context " NOT( is(\u3000& \") )" = .ok token ∧
      read context (String.ofList token.chars) = .ok token ∧ token.negations ≤ 32 ∧ token.Proper context :=
  ⟨rfl, read_printed _ " NOT( is(\u3000& \") )" _ rfl⟩

end TokenFilter.Token
