import TokenFilter.Predicate.Printer
import TokenFilter.Proofs.LiteralTexts
import TokenFilter.Proofs.Shape

set_option autoImplicit false

namespace TokenFilter

namespace Text

def Worded (cs : List Char) : Prop := Opens isNameChar cs ∧ ∀ c ∈ cs, isBare c = true

def isHeld (c : Char) : Bool := c != ' ' && c != ')'

theorem bare_held (c : Char) (bare : isBare c = true) : isHeld c = true := by
  simp [isBare] at bare
  simp [isHeld, bare]

theorem held_stops (rest : List Char) (stops : Stops isHeld rest) : Stops isBare rest := by
  intro c first
  cases bare : isBare c with
  | false => rfl
  | true =>
      rw [← stops c first, bare_held c bare]

end Text

def Policy.isDated (policy : Policy) : Bool := policy == .dateTruncate

def Combination.between : Combination → String
  | .and => " AND "
  | .or => " OR "

namespace Predicate

-- What the text of a predicate looks like from its beginning on.
inductive Form where
  | compared
  | contained
  | called
  | searched
  | negated
  | grouped
deriving DecidableEq

def form : Predicate → Form
  | .compare .. => .compared
  | .contains .. => .contained
  | .function .. => .called
  | .exists .. => .searched
  | .not _ => .negated
  | _ => .grouped

theorem join_form (combination : Combination) (parts : List Predicate) : (combination.join parts).form = .grouped := by
  cases combination <;> rfl

def isOpening (c : Char) : Bool := Text.isNameChar c || c == '('

def isSign (c : Char) : Bool := !isOpening c

-- By the last character of the first word and by what stands behind the word.
def formAt (last : Option Char) (rest : List Char) : Form :=
  match last, rest with
  | _, ' ' :: c :: _ => if isSign c then .compared else .negated
  | none, _ => .grouped
  | some 'y', _ => .searched
  | some 's', _ => .contained
  | some 'e', _ => .compared
  | _, _ => .called

def formOf (text : List Char) : Form := formAt (text.takeWhile Text.isBare).getLast? (text.dropWhile Text.isBare)

theorem form_of_word (word rest : List Char) (bare : ∀ c ∈ word, Text.isBare c = true)
    (stops : Text.Stops Text.isBare rest) : formOf (word ++ rest) = formAt word.getLast? rest := by
  obtain ⟨taken, dropped⟩ := Text.run_take Text.isBare word rest bare stops
  rw [formOf, taken, dropped]

def wrapped (dated : Bool) (cs : List Char) : List Char := if dated then "date".toList ++ '(' :: (cs ++ [')']) else cs

def joinedChars (combination : Combination) (parts : List Predicate) : List Char :=
  parts.flatMap fun part => combination.between.toList ++ part.render.toList

section Texts

theorem wrap_chars (policy : Policy) (shown : String) : (policy.wrap shown).toList = wrapped policy.isDated shown.toList := by
  cases policy <;> simp [Policy.wrap, Policy.isDated, wrapped]

variable (target : Target) (value : Value) (inner : Predicate) (rest : List Char)

theorem compare_chars (comparison : Comparison) (policy : Policy) :
    (compare target comparison value policy).render.toList ++ rest =
      wrapped policy.isDated target.render.toList ++ ' ' :: (comparison.symbol.toList ++ ' ' ::
        (wrapped policy.isDated value.render.toList ++ rest)) := by
  simp [render, wrap_chars]

theorem range_chars (low high : Value) :
    (range target (some low) (some high) .dateTruncate).render.toList ++ rest =
      '(' :: (wrapped true target.render.toList ++ ' ' :: (Comparison.gte.symbol.toList ++ ' ' ::
        (low.render.toList ++ ' ' :: ("AND ".toList ++ (wrapped true target.render.toList ++ ' ' ::
          (Comparison.lte.symbol.toList ++ ' ' :: (high.render.toList ++ ')' :: rest))))))) := by
  simp [render, renderRange, wrap_chars, Policy.isDated, Comparison.symbol]

theorem contains_chars (s : String) :
    (contains target (.text s)).render.toList ++ rest =
      (target.render.toList ++ ".contains".toList) ++ '(' :: ((Text.quoted s).toList ++ ')' :: rest) := by
  simp [render, Value.render]

theorem function_chars (fn : TextFunction) (s : String) :
    (function target fn (.text s)).render.toList ++ rest =
      "lower".toList ++ '(' :: (target.render.toList ++ ')' :: '.' :: (fn.name.toList ++ '(' ::
        ("lower(".toList ++ ((Text.quoted s).toList ++ ')' :: ')' :: rest)))) := by
  simp [render, Value.render]

theorem guarded_chars :
    (guarded target inner).render.toList ++ rest =
      '(' :: (target.render.toList ++ ' ' :: '!' :: ("= null AND ".toList ++ (inner.render.toList ++ ')' :: rest))) := by
  simp [render]

theorem not_chars : (not inner).render.toList ++ rest = "NOT".toList ++ ' ' :: (inner.render.toList ++ rest) := by
  simp [render]

theorem exists_chars :
    (Predicate.exists target inner).render.toList ++ rest =
      (target.render.toList ++ ".any".toList) ++ '(' :: ("it => ".toList ++ (inner.render.toList ++ ')' :: rest)) := by
  simp [render]

theorem joined_cons (combination : Combination) (part : Predicate) (parts : List Predicate) :
    joinedChars combination (part :: parts) ++ rest =
      combination.between.toList ++ (part.render.toList ++ (joinedChars combination parts ++ rest)) := by
  simp [joinedChars]

theorem parts_chars (combination : Combination) (first : Predicate) (parts : List Predicate) :
    (renderParts combination.between (first :: parts)).toList =
      first.render.toList ++ joinedChars combination parts := by
  induction parts generalizing first with
  | nil => simp [renderParts, joinedChars]
  | cons next others ih =>
      have whole := joined_cons [] combination next others
      rw [List.append_nil, List.append_nil] at whole
      simp [renderParts, ih, whole]

theorem join_chars (combination : Combination) (first : Predicate) (parts : List Predicate) :
    (combination.join (first :: parts)).render.toList ++ rest =
      '(' :: (first.render.toList ++ (joinedChars combination parts ++ ')' :: rest)) := by
  have whole := parts_chars combination first parts
  cases combination <;> simp [Combination.join, Combination.between, render] at whole ⊢ <;> simp [whole]

end Texts

section Words

theorem wrapped_told (dated dated' : Bool) (cs ds rest others : List Char) (bare : ∀ c ∈ cs, Text.isBare c = true)
    (bare' : ∀ c ∈ ds, Text.isBare c = true) (stops : Text.Stops Text.isHeld rest)
    (stops' : Text.Stops Text.isHeld others) (same : wrapped dated cs ++ rest = wrapped dated' ds ++ others) :
    dated = dated' ∧ cs = ds ∧ rest = others := by
  have bracket : ∀ more, Text.Stops Text.isBare ('(' :: more) := fun more => Text.stops_cons _ _ _ rfl
  have closing : ∀ more, Text.Stops Text.isBare (')' :: more) := fun more => Text.stops_cons _ _ _ rfl
  have word := Text.bare_word "date" (by decide)
  cases dated with
  | false =>
      cases dated' with
      | false => exact ⟨rfl, Text.run_unique _ _ _ _ _ bare bare' (Text.held_stops _ stops) (Text.held_stops _ stops') same⟩
      | true =>
          simp only [wrapped, if_true, List.append_assoc, List.cons_append] at same
          obtain ⟨_, rfl⟩ := Text.run_unique _ _ _ _ _ bare word (Text.held_stops _ stops) (bracket _) same
          cases stops _ rfl
  | true =>
      cases dated' with
      | false =>
          simp only [wrapped, if_true, List.append_assoc, List.cons_append] at same
          obtain ⟨_, rfl⟩ := Text.run_unique _ _ _ _ _ word bare' (bracket _) (Text.held_stops _ stops') same
          cases stops' _ rfl
      | true =>
          simp only [wrapped, if_true, List.append_assoc, List.cons_append] at same
          have inner := (List.cons.inj (List.append_cancel_left same)).2
          obtain ⟨texts, tails⟩ := Text.run_unique _ _ _ _ _ bare bare' (closing _) (closing _) inner
          exact ⟨rfl, texts, (List.cons.inj tails).2⟩

theorem symbol_told (comparison comparison' : Comparison) (rest others : List Char)
    (same : comparison.symbol.toList ++ ' ' :: rest = comparison'.symbol.toList ++ ' ' :: others) :
    comparison = comparison' ∧ rest = others := by
  cases comparison <;> cases comparison' <;> simp [Comparison.symbol] at same <;> exact ⟨rfl, same⟩

theorem function_name_told (fn fn' : TextFunction) (rest others : List Char)
    (same : fn.name.toList ++ '(' :: rest = fn'.name.toList ++ '(' :: others) : fn = fn' ∧ rest = others := by
  cases fn <;> cases fn' <;> simp [TextFunction.name] at same <;> exact ⟨rfl, same⟩

theorem symbol_opens (comparison : Comparison) (rest : List Char) :
    Text.Opens isSign (comparison.symbol.toList ++ rest) := by
  cases comparison <;> exact ⟨_, _, rfl, by decide⟩

theorem compared_form (dated : Bool) (cs rest : List Char) (bare : ∀ c ∈ cs, Text.isBare c = true)
    (signed : Text.Opens isSign rest) : formOf (wrapped dated cs ++ ' ' :: rest) = .compared := by
  obtain ⟨c, more, rfl, sign⟩ := signed
  cases dated with
  | false =>
      rw [wrapped, if_neg (by decide), form_of_word _ _ bare (Text.stops_cons _ _ _ rfl)]
      simp [formAt, sign]
  | true =>
      rw [wrapped, if_pos rfl, List.append_assoc, List.cons_append, form_of_word _ _ (Text.bare_word _ (by decide))
        (Text.stops_cons _ _ _ rfl)]
      rfl

theorem word_opens (cs : List Char) (opens : Text.Opens Text.isNameChar cs) : Text.Opens isOpening cs := by
  obtain ⟨c, rest, rfl, name⟩ := opens
  exact ⟨c, rest, rfl, by rw [isOpening, name, Bool.true_or]⟩

theorem bare_before (cs suffix : List Char) (bare : ∀ c ∈ cs, Text.isBare c = true)
    (bare' : ∀ c ∈ suffix, Text.isBare c = true) : ∀ c ∈ cs ++ suffix, Text.isBare c = true :=
  List.forall_mem_append.mpr ⟨bare, bare'⟩

theorem between_told (combination combination' : Combination) (rest others : List Char)
    (same : combination.between.toList ++ rest = combination'.between.toList ++ others) :
    combination = combination' ∧ rest = others := by
  cases combination <;> cases combination' <;> simp [Combination.between] at same <;> exact ⟨rfl, same⟩

theorem joined_stops (combination : Combination) (parts : List Predicate) (rest : List Char) :
    Text.Stops Text.isHeld (joinedChars combination parts ++ ')' :: rest) := by
  cases parts with
  | nil => exact Text.stops_cons _ _ _ rfl
  | cons part others =>
      rw [joined_cons]
      cases combination <;> exact Text.stops_cons _ _ _ rfl

end Words

end Predicate

end TokenFilter
