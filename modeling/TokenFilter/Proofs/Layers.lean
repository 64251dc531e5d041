import Mathlib.Logic.Function.Iterate
import TokenFilter.Proofs.Printing

set_option autoImplicit false

namespace TokenFilter

namespace Text

theorem lower_alpha (c : Char) (letter : c.toLower.isAlpha = true) : c.isAlpha = true := by
  unfold Char.toLower at letter
  by_cases upper : c.isUpper = true
  · exact Bool.or_eq_true_iff.mpr (.inl upper)
  · split at letter
    · rename_i big
      exact absurd (decide_eq_true big) upper
    · exact letter

theorem word_letters (cs word : List Char) (letters : word.all Char.isAlpha = true)
    (lowered : word.map Char.toLower = word) (named : sameAscii cs word = true) : ∀ c ∈ cs, c.isAlpha = true := by
  intro c member
  have inside : c.toLower ∈ word := by
    rw [← lowered, ← eq_of_beq named]
    exact List.mem_map_of_mem member
  exact lower_alpha c (List.all_eq_true.mp letters _ inside)

theorem split_on_length (c : Char) (cs : List Char) : (cs.splitOn c).length = cs.count c + 1 := by
  induction cs with
  | nil => rfl
  | cons d rest ih =>
      rw [List.splitOn_cons_eq_if_modifyHead, List.count_cons]
      by_cases same : (d == c) = true
      · rw [if_pos same, if_pos same, List.length_cons, ih]
      · rw [if_neg same, if_neg same, List.length_modifyHead, ih, Nat.add_zero]

end Text

namespace Token

inductive Layered (s : List Char) : Nat → List Char → Prop where
  | bare : Layered s 0 s
  | layer {n : Nat} {inner : List Char} (front name back : List Char) (blank : ∀ c ∈ front, Text.isBlank c = true)
      (named : Text.sameAscii name "not".toList = true) (blank' : ∀ c ∈ back, Text.isBlank c = true)
      (within : Layered s n inner) : Layered s (n + 1) (front ++ Call.chars ⟨name, inner⟩ ++ back)

def Positive (s : List Char) : Prop := negated? (call? (Text.trim s)) = none

def readCounted (context : Context) : Nat → List Char → Except Error Token × Nat
  | 0, text =>
    let cs := Text.trim text
    match negated? (call? cs) with
    | some _ => (.error (.negationDepth negationLimit), 1)
    | none => (readPositive context cs (call? cs), 1)
  | levels + 1, text =>
    let cs := Text.trim text
    match negated? (call? cs) with
    | some inner =>
      let (token, count) := readCounted context levels inner
      (token.map .not, count + 1)
    | none => (readPositive context cs (call? cs), 1)

theorem counted_read (context : Context) (levels : Nat) (text : List Char) :
    (readCounted context levels text).1 = readWithin context levels text := by
  fun_induction readWithin context levels text with
  | case1 text cs inner negated =>
      change negated? (call? (Text.trim text)) = some inner at negated
      simp only [readCounted, negated]
  | case2 text cs positive =>
      change negated? (call? (Text.trim text)) = none at positive
      simp only [readCounted, positive]
      rfl
  | case3 levels text cs inner negated ih =>
      change negated? (call? (Text.trim text)) = some inner at negated
      simp only [readCounted, negated, ih]
  | case4 levels text cs positive =>
      change negated? (call? (Text.trim text)) = none at positive
      simp only [readCounted, positive]
      rfl

theorem not_name_letters (name : List Char) (named : Text.sameAscii name "not".toList = true) :
    name ≠ [] ∧ (∀ c ∈ name, c.isAlpha = true) ∧ Text.Begins name := by
  have letters := Text.word_letters name "not".toList (by decide) (by decide) named
  refine ⟨?_, letters, ?_⟩
  · rintro rfl
    cases named
  · intro c first
    exact Text.alpha_solid c (letters c (List.mem_of_mem_head? first))

theorem layer_negated (front name inner back : List Char) (blank : ∀ c ∈ front, Text.isBlank c = true)
    (named : Text.sameAscii name "not".toList = true) (blank' : ∀ c ∈ back, Text.isBlank c = true) :
    negated? (call? (Text.trim (front ++ Call.chars ⟨name, inner⟩ ++ back))) = some inner := by
  obtain ⟨someName, letters, nameBegins⟩ := not_name_letters name named
  obtain ⟨begins, ends⟩ := call_solid ⟨name, inner⟩ nameBegins
  have called : call? (Call.chars ⟨name, inner⟩) = some ⟨name, inner⟩ :=
    (call_eq_some_iff _ _).mpr ⟨someName, letters, rfl⟩
  have someText : Call.chars ⟨name, inner⟩ ≠ [] := by simp [Call.chars]
  rw [Text.trim_around front back _ blank blank' someText begins ends, called]
  exact if_pos named

theorem negated_layer (text inner : List Char) (negated : negated? (call? (Text.trim text)) = some inner) :
    ∃ front name back, text = front ++ Call.chars ⟨name, inner⟩ ++ back ∧ (∀ c ∈ front, Text.isBlank c = true) ∧
      Text.sameAscii name "not".toList = true ∧ ∀ c ∈ back, Text.isBlank c = true := by
  obtain ⟨call, called, named⟩ := Option.bind_eq_some_iff.mp negated
  split at named
  · rename_i negation
    cases named
    obtain ⟨_, _, shape⟩ := (call_eq_some_iff _ _).mp called
    obtain ⟨front, back, split, blank, blank'⟩ := Text.trim_split text
    exact ⟨front, call.name, back, by rw [← shape]; exact split, blank, negation, blank'⟩
  · cases named

theorem text_layered (text : List Char) : ∃ n s, Positive s ∧ Layered s n text := by
  induction length : text.length using Nat.strongRecOn generalizing text with
  | ind size ih =>
      cases negated : negated? (call? (Text.trim text)) with
      | none => exact ⟨0, text, negated, .bare⟩
      | some inner =>
          obtain ⟨front, name, back, rfl, blank, named, blank'⟩ := negated_layer text inner negated
          have shorter : inner.length < size := by
            rw [← length]
            simp [Call.chars]
            omega
          obtain ⟨n, s, positive, layers⟩ := ih inner.length shorter inner rfl
          exact ⟨n + 1, s, positive, .layer front name back blank named blank' layers⟩

section Layers

variable (context : Context) {s text : List Char} {n : Nat} (positive : Positive s) (layers : Layered s n text)
include positive

theorem read_positive_text (levels : Nat) :
    readWithin context levels s = readPositive context (Text.trim s) (call? (Text.trim s)) := by
  have none : negated? (call? (Text.trim s)) = none := positive
  cases levels <;> simp only [readWithin, none]

include layers

-- One level is used up by each layer, and the text inside is read at whatever level is left.
theorem read_layers (levels : Nat) :
    readWithin context levels text =
      if n ≤ levels then (readPositive context (Text.trim s) (call? (Text.trim s))).map (Token.not^[n])
      else .error (.negationDepth negationLimit) := by
  induction layers generalizing levels with
  | bare =>
      rw [if_pos (Nat.zero_le _), read_positive_text context positive levels]
      cases readPositive context (Text.trim s) (call? (Text.trim s)) <;> rfl
  | @layer n inner front name back blank named blank' within ih =>
      have negated := layer_negated front name inner back blank named blank'
      cases levels with
      | zero =>
          rw [if_neg (by omega)]
          simp only [readWithin, negated]
      | succ levels =>
          simp only [readWithin, negated, ih levels, Nat.add_le_add_iff_right]
          split
          · rw [except_map_map, Function.iterate_succ']
            rfl
          · rfl

theorem count_layers (levels : Nat) : (readCounted context levels text).2 = min n levels + 1 := by
  induction layers generalizing levels with
  | bare =>
      have none : negated? (call? (Text.trim s)) = none := positive
      cases levels <;> simp only [readCounted, none, Nat.zero_min]
  | @layer n inner front name back blank named blank' within ih =>
      have negated := layer_negated front name inner back blank named blank'
      cases levels with
      | zero => simp only [readCounted, negated, Nat.min_zero]
      | succ levels => simp only [readCounted, negated, ih levels, Nat.add_min_add_right]

end Layers

theorem read_range_outcome (cs : List Char) :
    (∃ lower upper, cs.count '&' = 1 ∧ readRange cs = .ok (.range lower upper)) ∨
      cs.count '&' ≠ 1 ∧ readRange cs = .error (.rangeArity (String.ofList cs) (cs.count '&' + 1)) := by
  have length := Text.split_on_length '&' cs
  unfold readRange
  split
  · rename_i lower upper parts
    rw [parts] at length
    exact .inl ⟨bound? lower, bound? upper, by simpa using length.symm, rfl⟩
  · rename_i parts other
    refine .inr ⟨?_, by rw [length]⟩
    intro one
    rw [one] at length
    obtain ⟨lower, upper, eq⟩ := List.length_eq_two.mp length
    exact other lower upper eq

theorem read_positive_outcome (context : Context) (cs : List Char) :
    ((context.ranged = true → cs.count '&' < 2) ∧
        ∃ token, readPositive context cs (call? cs) = .ok token ∧ token.negations = 0) ∨
      context.ranged = true ∧ 2 ≤ cs.count '&' ∧
        readPositive context cs (call? cs) = .error (.rangeArity (String.ofList cs) (cs.count '&' + 1)) := by
  by_cases plain : Plain context cs
  · have few : context.ranged = true → cs.count '&' < 2 := by
      intro ranged
      rw [List.count_eq_zero.mpr (plain ranged)]
      exact Nat.zero_lt_two
    refine .inl ⟨few, _, read_plain context cs _ plain, ?_⟩
    cases found : function? context (call? cs) with
    | none => rfl
    | some token =>
        obtain ⟨_, fn, argument, rfl⟩ := function_some context _ token found
        rfl
  · simp only [Plain, Classical.not_imp, not_not] at plain
    obtain ⟨ranged, inside⟩ := plain
    have read : readPositive context cs (call? cs) = readRange cs := by
      simp [readPositive, ranged, inside]
    rw [read]
    rcases read_range_outcome cs with ⟨lower, upper, one, range⟩ | ⟨other, refused⟩
    · exact .inl ⟨fun _ => by omega, _, range, rfl⟩
    · have some := List.count_pos_iff.mpr inside
      exact .inr ⟨ranged, by omega, refused⟩

inductive Ending (context : Context) (s text : String) (n : Nat) : Prop where
  | tooDeep (deep : 32 < n) (refused : read context text = .error (.negationDepth 32))
  | token (within : n ≤ 32) (few : ¬ (context.ranged = true ∧ 2 ≤ s.toList.count '&')) (token : Token)
      (inner : read context s = .ok token) (bare : token.negations = 0)
      (whole : read context text = .ok (Token.not^[n] token))
  | parts (within : n ≤ 32) (many : context.ranged = true ∧ 2 ≤ s.toList.count '&')
      (refused : read context text = .error (.rangeArity (Text.trimmed s) (s.toList.count '&' + 1)))

theorem read_ending (context : Context) (s text : String) (n : Nat) (positive : Positive s.toList)
    (layers : Layered s.toList n text.toList) : Ending context s text n := by
  have whole : read context text = _ := read_layers context positive layers 32
  have alone : read context s = _ := read_positive_text context positive 32
  have counts := Text.count_trim '&' s.toList (by decide)
  by_cases within : n ≤ 32
  · rw [if_pos within] at whole
    rcases read_positive_outcome context (Text.trim s.toList) with ⟨few, token, passed, bare⟩ | ⟨ranged, many, refused⟩
    · rw [passed] at whole alone
      rw [counts] at few
      exact .token within (fun many => by have := few many.1; omega) token alone bare whole
    · rw [refused, counts] at whole
      rw [counts] at many
      exact .parts within ⟨ranged, many⟩ whole
  · rw [if_neg within] at whole
    exact .tooDeep (by omega) whole

section Endings

variable (context : Context) (s text : String) (n : Nat) (ending : Ending context s text n)
include ending

theorem ending_deep : read context text = .error (.negationDepth 32) ↔ 32 < n := by
  cases ending with
  | tooDeep deep refused => exact iff_of_true refused deep
  | token within few token inner bare whole =>
      refine iff_of_false ?_ (Nat.not_lt.mpr within)
      rw [whole]
      intro refused
      cases refused
  | parts within many refused =>
      refine iff_of_false ?_ (Nat.not_lt.mpr within)
      rw [refused]
      intro deep
      cases deep

theorem ending_parts (within : n ≤ 32) (token : String) (parts : Nat) :
    read context text = .error (.rangeArity token parts) ↔
      (context.ranged = true ∧ 2 ≤ s.toList.count '&') ∧
        token = Text.trimmed s ∧ parts = s.toList.count '&' + 1 := by
  cases ending with
  | tooDeep deep refused => exact absurd within (Nat.not_le.mpr deep)
  | token within few read inner bare whole =>
      refine iff_of_false ?_ (fun many => few many.1)
      rw [whole]
      intro refused
      cases refused
  | parts within many refused =>
      rw [refused]
      constructor
      · intro same
        cases same
        exact ⟨many, rfl, rfl⟩
      · rintro ⟨_, rfl, rfl⟩
        rfl

theorem ending_token (within : n ≤ 32) (few : ¬ (context.ranged = true ∧ 2 ≤ s.toList.count '&')) :
    ∃ token, read context s = .ok token ∧ token.negations = 0 ∧ read context text = .ok (Token.not^[n] token) := by
  cases ending with
  | tooDeep deep refused => exact absurd within (Nat.not_le.mpr deep)
  | token within few token inner bare whole => exact ⟨token, inner, bare, whole⟩
  | parts within many refused => exact absurd many few

theorem ending_fault (e : Error) (failed : read context text = .error e) :
    e = .negationDepth 32 ∨ ∃ token parts, e = .rangeArity token parts := by
  cases ending with
  | tooDeep deep refused => exact .inl (Except.error.inj (failed.symm.trans refused))
  | token within few token inner bare whole => cases failed.symm.trans whole
  | parts within many refused => exact .inr ⟨_, _, Except.error.inj (failed.symm.trans refused)⟩

end Endings

-- A text within `n` negations is refused for their depth just if there are more than thirty-two, whatever it is. Else
-- it comes to what the text alone comes to: a range with the wrong number of parts, or a token, which stands within so
-- many negations. Every text is of this form, so there are no other faults.
theorem read_layered (context : Context) :
    (∀ (n : Nat) (s text : String), Positive s.toList → Layered s.toList n text.toList →
      (read context text = .error (.negationDepth 32) ↔ 32 < n) ∧
      (n ≤ 32 → ∀ token parts, read context text = .error (.rangeArity token parts) ↔
        (context.ranged = true ∧ 2 ≤ s.toList.count '&') ∧
          token = Text.trimmed s ∧ parts = s.toList.count '&' + 1) ∧
      (n ≤ 32 → ¬ (context.ranged = true ∧ 2 ≤ s.toList.count '&') →
        ∃ token, read context s = .ok token ∧ token.negations = 0 ∧ read context text = .ok (Token.not^[n] token)) ∧
      (readCounted context 32 text.toList).2 = min n 32 + 1) ∧
    ∀ text : String,
      (∃ (n : Nat) (s : String), Positive s.toList ∧ Layered s.toList n text.toList) ∧
      (∀ e, read context text = .error e →
        e = .negationDepth 32 ∨ ∃ token parts, e = .rangeArity token parts) ∧
      (readCounted context 32 text.toList).1 = read context text ∧ (readCounted context 32 text.toList).2 ≤ 33 := by
  constructor
  · intro n s text positive layers
    have ending := read_ending context s text n positive layers
    exact ⟨ending_deep context s text n ending, ending_parts context s text n ending,
      ending_token context s text n ending, count_layers context positive layers 32⟩
  · intro text
    obtain ⟨n, cs, positive, layers⟩ := text_layered text.toList
    rw [← String.toList_ofList (l := cs)] at positive layers
    have ending := read_ending context (String.ofList cs) text n positive layers
    refine ⟨⟨n, String.ofList cs, positive, layers⟩, ending_fault context _ text n ending,
      counted_read context 32 text.toList, ?_⟩
    rw [count_layers context positive layers 32]
    omega

theorem read_layered_of_people :
    let s := "18&30&"
    let text := " NOT( not(18&30&)\u3000)"
    Positive s.toList ∧ Layered s.toList 2 text.toList ∧
      read (.ofKind .int) text = .error (.rangeArity s 3) ∧
      ∃ token, read (.ofKind .text) s = .ok token ∧ read (.ofKind .text) text = .ok (Token.not^[2] token) := by
  intro s text
  have positive : Positive s.toList := by
    unfold Positive
    decide +kernel
  have layers : Layered s.toList 2 text.toList := by
    have blank : ∀ c ∈ [' '], Text.isBlank c = true := List.forall_mem_singleton.mpr (by decide)
    have wide : ∀ c ∈ ['\u3000'], Text.isBlank c = true := List.forall_mem_singleton.mpr (by decide)
    have inner : Layered s.toList 1 _ := .layer [' '] "not".toList ['\u3000'] blank (by decide) wide .bare
    have outer : Layered s.toList 2 _ := .layer [' '] "NOT".toList [] blank (by decide) (by simp) inner
    have shape : [' '] ++ Call.chars ⟨"NOT".toList, [' '] ++ Call.chars ⟨"not".toList, s.toList⟩ ++ ['\u3000']⟩ ++ [] =
        text.toList := by decide +kernel
    rwa [shape] at outer
  have parts := ((read_layered (.ofKind .int)).1 2 s text positive layers).2.1 (by decide) s 3
  obtain ⟨token, alone, _, whole⟩ := ((read_layered (.ofKind .text)).1 2 s text positive layers).2.2.1 (by decide)
    (by decide)
  exact ⟨positive, layers, parts.mpr ⟨by decide, by decide, by decide⟩, token, alone, whole⟩

end Token

end TokenFilter
