import TokenFilter.Proofs.Lowering
import TokenFilter.Proofs.Quoting

set_option autoImplicit false

namespace TokenFilter

def TextFunction.inMode (fn : TextFunction) (mode : CaseMode) (value argument : Value) : Option Bool :=
  match fn with
  | .startsWith => value.textStartsWith mode argument
  | .endsWith => value.textEndsWith mode argument
  | .contains => value.textContains mode argument
  | .equals => value.textEquals mode argument

def TextFunction.Places (fn : TextFunction) (before after : List Char) : Prop :=
  match fn with
  | .startsWith => before = []
  | .endsWith => after = []
  | .contains => True
  | .equals => before = [] ∧ after = []

def CaseMode.form (mode : CaseMode) (s : String) : List Char :=
  match mode with
  | .sensitive => s.toList
  | .insensitive => Text.fold s.toList

def Text.significant? (cs : List Char) : Option Char := cs.find? fun c => !isCaseIgnorable c

def Text.decided (before after : List Char) : Bool :=
  match significant? before, significant? after with
  | some _, some _ => true
  | some c, none => !isCased c
  | none, some d => isCased d
  | none, none => false

def Text.Steady (word : List Char) : Prop := ∀ before after, Kept before word after

namespace TextFunction

theorem in_mode_iff (fn : TextFunction) (mode : CaseMode) (a b : String) :
    fn.inMode mode (.text a) (.text b) = some true ↔ fn.Relates (mode.form a) (mode.form b) := by
  cases mode <;> cases fn <;>
    simp [inMode, Relates, CaseMode.form, Value.textStartsWith, Value.textEndsWith, Value.textContains,
      Value.textEquals, Value.textTest, Value.asText?, Text.startsWith_iff, Text.endsWith_iff, Text.contains_iff]

theorem relates_iff (fn : TextFunction) (text word : List Char) :
    fn.Relates text word ↔ ∃ before after, text = before ++ word ++ after ∧ fn.Places before after := by
  cases fn with
  | startsWith => simp [Relates, Places, List.IsPrefix, eq_comm]
  | endsWith => simp [Relates, Places, List.IsSuffix, eq_comm]
  | contains => simp [Relates, Places, List.IsInfix, eq_comm]
  | equals => simp [Relates, Places]

theorem fold_relates (fn : TextFunction) (before word after : List Char) (placed : fn.Places before after)
    (kept : Text.Kept before.reverse word after) :
    fn.Relates (Text.fold (before ++ word ++ after)) (Text.fold word) := by
  rw [Text.fold_lower, Text.fold_lower, Text.lower_parts, (Text.between_kept _ _ _).mpr kept, relates_iff]
  refine ⟨_, _, rfl, ?_⟩
  cases fn with
  | startsWith =>
      subst placed
      rfl
  | endsWith =>
      subst placed
      rfl
  | contains => trivial
  | equals =>
      obtain ⟨rfl, rfl⟩ := placed
      exact ⟨rfl, rfl⟩

theorem kept_of_relates (fn : TextFunction) (before word after : List Char) (anchored : fn ≠ .contains)
    (placed : fn.Places before after)
    (relates : fn.Relates (Text.fold (before ++ word ++ after)) (Text.fold word)) :
    Text.Kept before.reverse word after := by
  rw [Text.fold_lower, Text.fold_lower, Text.lower_parts] at relates
  rw [← Text.between_kept]
  -- As the lower case there is as long as that of the word alone, at an end of the text it can only be in its place.
  have sameLength : (Text.lowerBetween before.reverse word after).length = (Text.lower word).length := by
    rw [Text.lower_between]
    exact Text.between_length before.reverse after [] [] word
  cases fn with
  | startsWith =>
      subst placed
      have here : Text.lowerBetween [] word after <+:
          Text.lowerBetween [] word after ++ Text.lowerBetween (word.reverse ++ []) after [] := List.prefix_append _ _
      exact (List.prefix_of_prefix_length_le here relates sameLength.le).eq_of_length sameLength
  | endsWith =>
      subst placed
      have here : Text.lowerBetween before.reverse word [] <:+
          Text.lowerBetween [] before (word ++ []) ++ Text.lowerBetween before.reverse word [] ++ [] := by
        rw [List.append_nil]
        exact List.suffix_append _ _
      exact (List.suffix_of_suffix_length_le here relates sameLength.le).eq_of_length sameLength
  | contains => exact absurd rfl anchored
  | equals =>
      obtain ⟨rfl, rfl⟩ := placed
      rw [Text.lower_between]
      rfl

end TextFunction

namespace Text

theorem meets_significant (cs : List Char) : meetsCased cs = (significant? cs).any isCased := by
  rw [significant?, List.find?_eq_head?_dropWhile_not]
  simp only [Bool.not_not]
  rfl

theorem significant_append (cs more : List Char) :
    significant? (cs ++ more) = (significant? cs).or (significant? more) := List.find?_append

theorem meets_letter : significant? ['a'] = some 'a' ∧ isCased 'a' = true := by
  decide +kernel

theorem decided_iff (before after : List Char) :
    decided before after = true ↔
      ∀ more further, endsWord (before ++ more) (after ++ further) = endsWord before after := by
  unfold decided endsWord
  simp only [meets_significant, significant_append]
  obtain ⟨letter, cased⟩ := meets_letter
  cases significant? before with
  | some c =>
      cases significant? after with
      | some d => simp
      | none =>
          -- Where nothing counts on a side, a letter put there shows that the side does not decide.
          constructor
          · intro plain
            have plain : isCased c = false := by simpa using plain
            simp [plain]
          · intro same
            have changed := same [] ['a']
            simpa [letter, cased] using changed
  | none =>
      cases significant? after with
      | some d =>
          constructor
          · intro here
            simp [here]
          · intro same
            have changed := same ['a'] []
            simpa [letter, cased] using changed
      | none =>
          refine iff_of_false (by decide) ?_
          intro same
          have changed := same ['a'] []
          have nothing : significant? [] = none := rfl
          simp [letter, cased, nothing] at changed

theorem steady_iff (word : List Char) :
    Steady word ↔ ∀ front back, word = front ++ 'Σ' :: back → decided front.reverse back = true := by
  simp only [Steady, Kept, decided_iff]
  constructor
  · intro steady front back split more further
    exact steady more further front back split
  · intro decided before after front back split
    exact decided front back split before after

end Text

theorem insensitive_of_kept (fn : TextFunction) (a b : String) (before after : List Char)
    (there : a.toList = before ++ b.toList ++ after) (placed : fn.Places before after)
    (kept : Text.Kept before.reverse b.toList after) : fn.inMode .insensitive (.text a) (.text b) = some true := by
  rw [TextFunction.in_mode_iff, CaseMode.form, CaseMode.form, there]
  exact TextFunction.fold_relates fn before b.toList after placed kept

theorem insensitive_of_steady (fn : TextFunction) (a b : String)
    (sensitive : fn.inMode .sensitive (.text a) (.text b) = some true)
    (steady : fn = .equals ∨ Text.Steady b.toList) : fn.inMode .insensitive (.text a) (.text b) = some true := by
  have literally : fn.Relates a.toList b.toList := (TextFunction.in_mode_iff fn .sensitive a b).mp sensitive
  obtain ⟨before, after, there, placed⟩ := (TextFunction.relates_iff fn _ _).mp literally
  refine insensitive_of_kept fn a b before after there placed ?_
  rcases steady with rfl | steady
  · obtain ⟨rfl, rfl⟩ := placed
    exact Text.kept_alone b.toList
  · exact steady before.reverse after

theorem matches_offers (route : Path.Route) (entity : Entity) (token : Token) (ask : String → Prop)
    (textual : route.kind.leaf.isText = true)
    (asks : ∀ kind : Kind, kind.isText = true → ∀ value,
      token.Matches kind value ↔ kind.HasSuch value fun actual => ∃ s, actual = .text s ∧ ask s) :
    route.Matches entity token ↔ ∃ s, route.Offers entity (.text s) ∧ ask s := by
  rw [such_offered route entity token _ (asks _ textual)]
  constructor
  · intro such
    obtain ⟨_, offered, _, s, rfl, asked⟩ := such
    exact ⟨s, offered, asked⟩
  · intro such
    obtain ⟨s, offered, asked⟩ := such
    exact ⟨.text s, offered, fun _ => rfl, s, rfl, asked⟩

section Offers

variable (schema : Schema) (path : String) (route : Path.Route) (combination : Combination)
  (resolved : schema.resolve path = .ok route) (textual : route.kind.leaf.isText = true)
include resolved textual

theorem function_offers (fn : TextFunction) (word : String) :
    ∃ p, (compile schema [⟨path, [fn.name ++ "(" ++ word ++ ")"]⟩] combination).result = .ok (some p) ∧
      ∀ entity, p.holds entity = true ↔
        ∃ s, route.Offers entity (.text s) ∧ fn.inMode .insensitive (.text s) (.text word) = some true := by
  have read := Token.read_function route.kind.leaf textual fn word
  obtain ⟨p, compiled, holds⟩ := single_holds schema path _ route _ combination resolved read rfl
  refine ⟨p, compiled, ?_⟩
  intro entity
  rw [holds]
  refine matches_offers route entity _ _ textual ?_
  intro kind _ value
  simp only [TextFunction.in_mode_iff]
  rfl

theorem literal_offers (text : String) (cs : List Char)
    (read : Token.read (.ofKind route.kind.leaf) text = .ok (.literal cs)) :
    ∃ p, (compile schema [⟨path, [text]⟩] combination).result = .ok (some p) ∧
      ∀ entity, p.holds entity = true ↔
        ∃ s, route.Offers entity (.text s) ∧
          TextFunction.contains.inMode .sensitive (.text s) (.text (String.ofList (Literal.bare cs))) = some true := by
  have survives : Token.survives route.kind.leaf (.literal cs) = true := by
    rw [Token.survives, Kind.reads, read_text _ cs textual]
    rfl
  obtain ⟨p, compiled, holds⟩ := single_holds schema path text route _ combination resolved read survives
  refine ⟨p, compiled, ?_⟩
  intro entity
  rw [holds]
  refine matches_offers route entity _ _ textual ?_
  intro kind here value
  simp only [TextFunction.in_mode_iff]
  simp [Token.Matches, Kind.Agrees, read_text kind cs here, text_non_null kind here, TextFunction.Relates,
    CaseMode.form]

end Offers

-- Where the word stands in a text, it stands there without regard to case if its sigmas have the form that they have
-- in the word alone, and at an end of the text only then. So it is for the tokens of a path, too.
theorem insensitive_extends (schema : Schema) (path : String) (route : Path.Route) (combination : Combination)
    (resolved : schema.resolve path = .ok route) (textual : route.kind.leaf.isText = true) :
    (∀ (fn : TextFunction) (a b : String), fn.inMode .sensitive (.text a) (.text b) = some true →
      fn = .equals ∨ Text.Steady b.toList → fn.inMode .insensitive (.text a) (.text b) = some true) ∧
    (∀ (fn : TextFunction) (a b : String) (before after : List Char), a.toList = before ++ b.toList ++ after →
      fn.Places before after → Text.Kept before.reverse b.toList after →
      fn.inMode .insensitive (.text a) (.text b) = some true) ∧
    (∀ (fn : TextFunction) (a b : String) (before after : List Char), a.toList = before ++ b.toList ++ after →
      fn.Places before after → fn ≠ .contains → fn.inMode .insensitive (.text a) (.text b) = some true →
      Text.Kept before.reverse b.toList after) ∧
    (∀ word : List Char, Text.Steady word ↔
      ∀ front back, word = front ++ 'Σ' :: back → Text.decided front.reverse back = true) ∧
    (∀ (text : String) (cs : List Char), Token.read (.ofKind route.kind.leaf) text = .ok (.literal cs) →
      Text.Steady (Literal.bare cs) →
      ∃ plain within,
        (compile schema [⟨path, [text]⟩] combination).result = .ok (some plain) ∧
        (compile schema [⟨path, ["contains(" ++ String.ofList (Literal.bare cs) ++ ")"]⟩] combination).result =
          .ok (some within) ∧
        ∀ entity, plain.holds entity = true → within.holds entity = true) ∧
    (∀ (fn : TextFunction) (word : String),
      ∃ p, (compile schema [⟨path, [fn.name ++ "(" ++ word ++ ")"]⟩] combination).result = .ok (some p) ∧
        ∀ (entity : Entity) (s : String) (before after : List Char), route.Offers entity (.text s) →
          s.toList = before ++ word.toList ++ after → fn.Places before after →
          Text.Kept before.reverse word.toList after → p.holds entity = true) := by
  refine ⟨insensitive_of_steady, insensitive_of_kept, ?_, Text.steady_iff, ?_, ?_⟩
  · intro fn a b before after there placed anchored insensitive
    rw [TextFunction.in_mode_iff, CaseMode.form, CaseMode.form, there] at insensitive
    exact TextFunction.kept_of_relates fn before b.toList after anchored placed insensitive
  · intro text cs read steady
    obtain ⟨plain, compiled, holds⟩ := literal_offers schema path route combination resolved textual text cs read
    obtain ⟨within, compiledWithin, holdsWithin⟩ :=
      function_offers schema path route combination resolved textual .contains (String.ofList (Literal.bare cs))
    refine ⟨plain, within, compiled, compiledWithin, ?_⟩
    intro entity held
    obtain ⟨s, offered, sensitive⟩ := (holds entity).mp held
    refine (holdsWithin entity).mpr ⟨s, offered, ?_⟩
    exact insensitive_of_steady .contains s _ sensitive (.inr (by rwa [String.toList_ofList]))
  · intro fn word
    obtain ⟨p, compiled, holds⟩ := function_offers schema path route combination resolved textual fn word
    refine ⟨p, compiled, ?_⟩
    intro entity s before after offered there placed kept
    exact (holds entity).mpr ⟨s, offered, insensitive_of_kept fn s word before after there placed kept⟩

theorem insensitive_extends_of_people :
    let schema : Schema := ⟨"people", "Person", [⟨"Name", .nullable .text⟩]⟩
    let route : Path.Route := ⟨["Name"], [0], .nullable .text⟩
    schema.resolve "name" = .ok route ∧ route.kind.leaf.isText = true ∧ Text.Steady "ΣΟΦΙΑ".toList ∧
      (∃ plain within, (compile schema [⟨"name", ["ΣΟΦΙΑ"]⟩] .and).result = .ok (some plain) ∧
        (compile schema [⟨"name", ["contains(ΣΟΦΙΑ)"]⟩] .and).result = .ok (some within) ∧
        ∀ entity, plain.holds entity = true → within.holds entity = true) ∧
      ∃ p, (compile schema [⟨"name", ["endsWith(ΟΔΟΣ)"]⟩] .and).result = .ok (some p) ∧
        p.holds (fun _ => some (.text "ΑΝΟΔΟΣ")) = true := by
  intro schema route
  have resolved : schema.resolve "name" = .ok route := rfl
  have textual : route.kind.leaf.isText = true := rfl
  obtain ⟨_, _, _, steady_iff, literal, function⟩ := insensitive_extends schema "name" route .and resolved textual
  have steady : Text.Steady "ΣΟΦΙΑ".toList := by
    refine (steady_iff _).mpr ?_
    have chars : "ΣΟΦΙΑ".toList = ['Σ', 'Ο', 'Φ', 'Ι', 'Α'] := by decide +kernel
    intro front back split
    rw [chars] at split
    cases front with
    | nil =>
        obtain ⟨_, rfl⟩ := List.cons.inj split
        decide +kernel
    | cons c front =>
        obtain ⟨_, rest⟩ := List.cons.inj split
        have later : 'Σ' ∈ ['Ο', 'Φ', 'Ι', 'Α'] := by simp [rest]
        exact absurd later (by decide)
  have read : Token.read (.ofKind route.kind.leaf) "ΣΟΦΙΑ" = .ok (.literal "ΣΟΦΙΑ".toList) := rfl
  have bare : Literal.bare "ΣΟΦΙΑ".toList = "ΣΟΦΙΑ".toList := by decide +kernel
  have within := literal "ΣΟΦΙΑ" _ read (by rwa [bare])
  have call : "contains(" ++ String.ofList (Literal.bare "ΣΟΦΙΑ".toList) ++ ")" = "contains(ΣΟΦΙΑ)" := by decide +kernel
  rw [call] at within
  obtain ⟨p, compiled, holds⟩ := function .endsWith "ΟΔΟΣ"
  have ending : TextFunction.endsWith.name ++ "(" ++ "ΟΔΟΣ" ++ ")" = "endsWith(ΟΔΟΣ)" := by decide +kernel
  rw [ending] at compiled
  have there : "ΑΝΟΔΟΣ".toList = "ΑΝ".toList ++ "ΟΔΟΣ".toList ++ [] := by decide +kernel
  have kept : Text.Kept "ΑΝ".toList.reverse "ΟΔΟΣ".toList [] := (Text.between_kept _ _ _).mp (by decide +kernel)
  exact ⟨resolved, textual, steady, within, p, compiled, holds _ "ΑΝΟΔΟΣ" "ΑΝ".toList [] rfl there rfl kept⟩

-- In the text another letter follows the sigma, or stands before it.
theorem final_sigma_not_extended :
    (TextFunction.contains.inMode .sensitive (.text "ΟΔΟΣΗ") (.text "ΟΔΟΣ") = some true ∧
      TextFunction.contains.inMode .insensitive (.text "ΟΔΟΣΗ") (.text "ΟΔΟΣ") = some false) ∧
    (TextFunction.startsWith.inMode .sensitive (.text "ΟΔΟΣΗ") (.text "ΟΔΟΣ") = some true ∧
      TextFunction.startsWith.inMode .insensitive (.text "ΟΔΟΣΗ") (.text "ΟΔΟΣ") = some false) ∧
    (TextFunction.endsWith.inMode .sensitive (.text "ΟΔΟΣ") (.text "Σ") = some true ∧
      TextFunction.endsWith.inMode .insensitive (.text "ΟΔΟΣ") (.text "Σ") = some false) := by
  decide +kernel

end TokenFilter
