import TokenFilter.Proofs.Folding
import TokenFilter.Proofs.Trimming

/-
Folding is lower case, with or without the short cut for ASCII. Lower case is taken one character at a time, and only
the form of a capital sigma hangs on what stands around it. So a part of a text has the lower case that it has alone
just if its sigmas keep their forms, and characters of a class that has no letters neither come nor go.
-/

set_option autoImplicit false

namespace TokenFilter.Text

def LowerRun.avoids (run : LowerRun) (range : Nat × Nat) : Bool :=
  (run.last < range.1 || range.2 < run.first) &&
    ((run.last + run.shift).toNat < range.1 || range.2 < (run.first + run.shift).toNat)

def endsWord (before after : List Char) : Bool := meetsCased before && !meetsCased after

def lowerAt (before : List Char) (c : Char) (after : List Char) : List Char :=
  if c = 'Σ' then [if endsWord before after then 'ς' else 'σ'] else lowerChar c

-- Lower case of a part of a text, between what stands before it, last character first, and after it.
def lowerBetween (before : List Char) : List Char → List Char → List Char
  | [], _ => []
  | c :: rest, after => lowerAt before c (rest ++ after) ++ lowerBetween (c :: before) rest after

def Kept (before part after : List Char) : Prop :=
  ∀ front back, part = front ++ 'Σ' :: back →
    endsWord (front.reverse ++ before) (back ++ after) = endsWord front.reverse back

theorem lower_after_append (before cs after : List Char) :
    lowerAfter before (cs ++ after) = lowerBetween before cs after ++ lowerAfter (cs.reverse ++ before) after := by
  induction cs generalizing before with
  | nil => rfl
  | cons c rest ih =>
      rw [List.cons_append, lowerAfter, ih, lowerBetween, List.append_assoc, List.reverse_cons, List.append_assoc]
      rfl

theorem lower_after_between (before cs : List Char) : lowerAfter before cs = lowerBetween before cs [] := by
  have whole := lower_after_append before cs []
  rwa [List.append_nil, lowerAfter, List.append_nil] at whole

theorem lower_between (cs : List Char) : lower cs = lowerBetween [] cs [] := lower_after_between [] cs

theorem between_append (before cs more after : List Char) :
    lowerBetween before (cs ++ more) after =
      lowerBetween before cs (more ++ after) ++ lowerBetween (cs.reverse ++ before) more after := by
  induction cs generalizing before with
  | nil => rfl
  | cons c rest ih => simp [lowerBetween, ih, List.append_assoc]

theorem lower_parts (before part after : List Char) :
    lower (before ++ part ++ after) =
      lowerBetween [] before (part ++ after) ++ lowerBetween before.reverse part after ++
        lowerBetween (part.reverse ++ before.reverse) after [] := by
  rw [lower_between, List.append_assoc, between_append, between_append, List.append_nil, List.append_nil,
    List.append_nil, List.append_assoc]

section Sigma

variable (before after before' after' : List Char)

theorem lower_at_length (c : Char) : (lowerAt before c after).length = (lowerAt before' c after').length := by
  unfold lowerAt
  split <;> rfl

theorem lower_at_same (c : Char) :
    lowerAt before c after = lowerAt before' c after' ↔
      (c = 'Σ' → endsWord before after = endsWord before' after') := by
  by_cases sigma : c = 'Σ'
  · subst sigma
    cases here : endsWord before after <;> cases there : endsWord before' after' <;> simp [lowerAt, here, there]
  · simp [lowerAt, sigma]

theorem between_length (cs : List Char) :
    (lowerBetween before cs after).length = (lowerBetween before' cs after').length := by
  induction cs generalizing before before' with
  | nil => rfl
  | cons c rest ih =>
      rw [lowerBetween, lowerBetween, List.length_append, List.length_append, ih (c :: before) (c :: before'),
        lower_at_length before (rest ++ after) before' (rest ++ after')]

theorem between_same (inner cs : List Char) :
    lowerBetween (inner ++ before) cs after = lowerBetween inner cs [] ↔
      ∀ front back, cs = front ++ 'Σ' :: back →
        endsWord (front.reverse ++ (inner ++ before)) (back ++ after) = endsWord (front.reverse ++ inner) back := by
  -- Going from left to right, some of the part itself comes to stand before the rest, in both.
  induction cs generalizing inner with
  | nil => simp [lowerBetween]
  | cons c rest ih =>
      have here := lower_at_same (inner ++ before) (rest ++ after) inner rest c
      have deeper := ih (c :: inner)
      rw [List.cons_append] at deeper
      have sameLength := lower_at_length (inner ++ before) (rest ++ after) inner rest c
      rw [lowerBetween, lowerBetween, List.append_nil, List.append_eq_append_iff_of_size_eq_left sameLength, here,
        deeper]
      constructor
      · intro same front back split
        obtain ⟨first, others⟩ := same
        cases front with
        | nil =>
            obtain ⟨sigma, rfl⟩ := List.cons.inj split
            exact first sigma
        | cons d front =>
            obtain ⟨rfl, rfl⟩ := List.cons.inj split
            simpa using others front back rfl
      · intro same
        refine ⟨?_, ?_⟩
        · intro sigma
          exact same [] rest (by rw [sigma]; rfl)
        · intro front back split
          simpa using same (c :: front) back (by rw [split]; rfl)

theorem between_kept (part : List Char) :
    lowerBetween before part after = lower part ↔ Kept before part after := by
  have same := between_same before after [] part
  rw [lower_between, List.nil_append] at *
  simpa [Kept] using same

end Sigma

theorem kept_alone (part : List Char) : Kept [] part [] := by
  intro front back _
  simp

def Ranges.isSpared (ranges : Ranges) : Bool :=
  lowerRuns.all (fun run => ranges.all run.avoids) &&
    ['\x00', 'İ', 'i', '\u0307', 'Σ', 'σ', 'ς'].all fun c => !ranges.holds c

theorem blank_spared : blankRanges.isSpared = true := by
  decide +kernel

theorem dot_spared : Ranges.isSpared [(0x2e, 0x2e)] = true := by
  decide +kernel

theorem outside (ranges : Ranges) (c : Char) (apart : ∀ range ∈ ranges, c.toNat < range.1 ∨ range.2 < c.toNat) :
    ranges.holds c = false := by
  rw [← Bool.not_eq_true, Ranges.holds_iff]
  intro inside
  obtain ⟨range, member, lower, upper⟩ := inside
  have := apart range member
  omega

theorem lower_at_somewhat (before : List Char) (c : Char) (after : List Char) : lowerAt before c after ≠ [] := by
  unfold lowerAt lowerChar
  split
  · simp
  · split
    · simp
    · split <;> simp

section Spared

variable (ranges : Ranges) (spared : ranges.isSpared = true)
include spared

theorem spared_alone (c : Char) (special : c ∈ ['\x00', 'İ', 'i', '\u0307', 'Σ', 'σ', 'ς']) :
    ranges.holds c = false := by
  have free := (Bool.and_eq_true_iff.mp spared).2
  simpa using List.all_eq_true.mp free c special

theorem spared_run (run : LowerRun) (member : run ∈ lowerRuns) (c : Char) (covered : run.covers c.toNat = true) :
    ranges.holds c = false ∧ ranges.holds (Char.ofNat (c.toNat + run.shift).toNat) = false := by
  obtain ⟨lower, upper, _⟩ := (covers_iff run c.toNat).mp covered
  have avoids : ∀ range ∈ ranges, run.avoids range = true :=
    List.all_eq_true.mp (List.all_eq_true.mp (Bool.and_eq_true_iff.mp spared).1 run member)
  simp only [LowerRun.avoids, Bool.and_eq_true, Bool.or_eq_true, decide_eq_true_eq] at avoids
  constructor
  · refine outside ranges c ?_
    intro range here
    have := avoids range here
    omega
  · rcases of_code (c.toNat + run.shift).toNat with same | zero
    · refine outside ranges _ ?_
      intro range here
      have := avoids range here
      omega
    · rw [zero]
      exact spared_alone ranges spared _ (by decide)

theorem spared_char (c : Char) : ∀ d ∈ lowerChar c, ranges.holds d = ranges.holds c := by
  intro d member
  rw [lowerChar] at member
  split at member
  · rename_i dotted
    rw [dotted, spared_alone ranges spared 'İ' (by decide)]
    refine spared_alone ranges spared d ?_
    revert member
    simp +contextual [or_imp]
  · cases found : lowerRuns.find? (·.covers c.toNat) with
    | none =>
        rw [found] at member
        rw [List.mem_singleton.mp member]
    | some run =>
        rw [found] at member
        obtain rfl := List.mem_singleton.mp member
        have covered : run.covers c.toNat = true := by simpa using List.find?_some found
        obtain ⟨source, image⟩ := spared_run ranges spared run (List.mem_of_find?_eq_some found) c covered
        rw [source, image]

theorem spared_at (before : List Char) (c : Char) (after : List Char) :
    ∀ d ∈ lowerAt before c after, ranges.holds d = ranges.holds c := by
  intro d member
  rw [lowerAt] at member
  split at member
  · rename_i sigma
    rw [sigma, spared_alone ranges spared 'Σ' (by decide)]
    refine spared_alone ranges spared d ?_
    rw [List.mem_singleton.mp member]
    split <;> decide
  · exact spared_char ranges spared c d member

theorem spared_first (before : List Char) (c : Char) (after : List Char) :
    (lowerAt before c after).head?.map ranges.holds = some (ranges.holds c) := by
  have same := spared_at ranges spared before c after
  cases lowered : lowerAt before c after with
  | nil => exact absurd lowered (lower_at_somewhat before c after)
  | cons d rest =>
      rw [lowered] at same
      exact congrArg some (same d List.mem_cons_self)

theorem spared_last (before : List Char) (c : Char) (after : List Char) :
    (lowerAt before c after).getLast?.map ranges.holds = some (ranges.holds c) := by
  have same := spared_at ranges spared before c after
  have somewhat := lower_at_somewhat before c after
  rw [List.getLast?_eq_some_getLast somewhat]
  exact congrArg some (same _ (List.getLast_mem somewhat))

theorem between_head (before cs after : List Char) :
    (lowerBetween before cs after).head?.map ranges.holds = cs.head?.map ranges.holds := by
  cases cs with
  | nil => rfl
  | cons c rest =>
      rw [lowerBetween, List.head?_append_of_ne_nil _ (lower_at_somewhat _ _ _), spared_first ranges spared]
      rfl

theorem between_last (before cs after : List Char) :
    (lowerBetween before cs after).getLast?.map ranges.holds = cs.getLast?.map ranges.holds := by
  rcases List.eq_nil_or_concat cs with rfl | ⟨front, c, rfl⟩
  · rfl
  · have last : lowerBetween (front.reverse ++ before) [c] after = lowerAt (front.reverse ++ before) c after := by
      simp [lowerBetween]
    rw [List.concat_eq_append, between_append, last,
      List.getLast?_append_of_ne_nil _ (lower_at_somewhat _ _ _), spared_last ranges spared, List.getLast?_concat]
    rfl

theorem between_any (before cs after : List Char) :
    (lowerBetween before cs after).any ranges.holds = cs.any ranges.holds := by
  induction cs generalizing before with
  | nil => rfl
  | cons c rest ih =>
      have same := spared_at ranges spared before c (rest ++ after)
      have here : (lowerAt before c (rest ++ after)).any ranges.holds = ranges.holds c := by
        rw [Bool.eq_iff_iff, List.any_eq_true]
        constructor
        · intro found
          obtain ⟨d, member, inside⟩ := found
          rw [← same d member]
          exact inside
        · intro inside
          obtain ⟨d, member⟩ := List.exists_mem_of_ne_nil _ (lower_at_somewhat before c (rest ++ after))
          exact ⟨d, member, by rw [same d member]; exact inside⟩
      rw [lowerBetween, List.any_append, here, ih, List.any_cons]

end Spared

theorem ascii_lower_char : ∀ code : Fin 128, lowerChar (Char.ofNat code) = [(Char.ofNat code).toLower] := by
  decide +kernel

theorem lower_ascii (before cs : List Char) (ascii : cs.all isAscii = true) :
    lowerAfter before cs = cs.map Char.toLower := by
  induction cs generalizing before with
  | nil => rfl
  | cons c rest ih =>
      obtain ⟨first, others⟩ := Bool.and_eq_true_iff.mp (List.all_cons ▸ ascii)
      have bound : c.toNat < 128 := by simpa [isAscii] using first
      have plain : c ≠ 'Σ' := by
        intro sigma
        subst sigma
        exact absurd bound (by decide)
      have letter : lowerChar c = [c.toLower] := by simpa using ascii_lower_char ⟨c.toNat, bound⟩
      rw [lowerAfter, if_neg plain, letter, ih (c :: before) others]
      rfl

theorem fold_lower (cs : List Char) : fold cs = lower cs := by
  rw [fold]
  split
  · rename_i ascii
    exact (lower_ascii [] cs ascii).symm
  · rfl

theorem begins_head (cs : List Char) : Begins cs ↔ cs.head?.map blankRanges.holds ≠ some true := by
  cases cs <;> simp [Begins, isBlank]

theorem ends_last (cs : List Char) : Ends cs ↔ cs.getLast?.map blankRanges.holds ≠ some true := by
  rw [Ends]
  cases cs.getLast? <;> simp [isBlank]

theorem fold_begins (cs : List Char) : Begins (fold cs) ↔ Begins cs := by
  rw [begins_head, begins_head, fold_lower, lower_between, between_head blankRanges blank_spared]

theorem fold_ends (cs : List Char) : Ends (fold cs) ↔ Ends cs := by
  rw [ends_last, ends_last, fold_lower, lower_between, between_last blankRanges blank_spared]

theorem dot_holds (c : Char) : Ranges.holds [(0x2e, 0x2e)] c = true ↔ c = '.' := by
  rw [Ranges.holds_iff, ← Char.toNat_inj]
  simp only [List.mem_singleton, exists_eq_left]
  change 46 ≤ c.toNat ∧ c.toNat ≤ 46 ↔ c.toNat = 46
  omega

theorem fold_dot (cs : List Char) : '.' ∈ fold cs ↔ '.' ∈ cs := by
  have same := between_any _ dot_spared [] cs []
  rw [← lower_between, ← fold_lower, Bool.eq_iff_iff] at same
  simpa only [List.any_eq_true, dot_holds, exists_eq_right] using same

end TokenFilter.Text
