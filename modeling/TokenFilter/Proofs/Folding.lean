import TokenFilter.Text.Case

set_option autoImplicit false

namespace TokenFilter.Text

def LowerRun.avoidsDotted (run : LowerRun) : Bool :=
  run.last + run.shift < 0x130 || 0x130 < run.first + run.shift

-- The images of the run lie outside the other run, or between its steps. They are compared by
-- `Nat.blt`, which the kernel computes faster, as it goes through all pairs of runs.
def LowerRun.misses (run other : LowerRun) : Bool :=
  let first := (run.first + run.shift).toNat
  let last := (run.last + run.shift).toNat
  Nat.blt last other.first || Nat.blt other.last first ||
    (other.step == 2 && (run.step == 2 || run.first == run.last) && (first - other.first) % 2 == 1)

theorem runs_avoid_dotted : lowerRuns.all LowerRun.avoidsDotted = true := by
  decide +kernel

theorem runs_miss_runs : lowerRuns.all (fun run => lowerRuns.all run.misses) = true := by
  decide +kernel

theorem covers_iff (run : LowerRun) (code : Nat) :
    run.covers code = true ↔ run.first ≤ code ∧ code ≤ run.last ∧ (code - run.first) % run.step = 0 := by
  simp [LowerRun.covers, and_assoc]

theorem image_not_covered (run other : LowerRun) (code : Nat) (misses : run.misses other = true)
    (covered : run.covers code = true) : other.covers (code + run.shift).toNat = false := by
  obtain ⟨lower, upper, step⟩ := (covers_iff run code).mp covered
  simp only [LowerRun.misses, Bool.or_eq_true, Bool.and_eq_true, Nat.blt_eq, beq_iff_eq] at misses
  rw [← Bool.not_eq_true, covers_iff]
  intro otherCovered
  obtain ⟨otherLower, otherUpper, otherStep⟩ := otherCovered
  rcases misses with (before | after) | ⟨⟨even, alone⟩, odd⟩
  · omega
  · omega
  · rw [even] at otherStep
    rcases alone with even' | single
    · rw [even'] at step
      omega
    · omega

def Settled (c : Char) : Prop := c ≠ '\u0130' ∧ lowerRuns.any (·.covers c.toNat) = false

instance (c : Char) : Decidable (Settled c) := inferInstanceAs (Decidable (_ ∧ _))

theorem of_code (code : Nat) : (Char.ofNat code).toNat = code ∨ Char.ofNat code = '\x00' := by
  by_cases valid : code.isValidChar
  · left
    rw [Char.ofNat, dif_pos valid]
    rfl
  · right
    rw [Char.ofNat, dif_neg valid]
    rfl

theorem settled_of_code (code : Nat) (plain : code ≠ 0x130)
    (free : lowerRuns.any (·.covers code) = false) : Settled (Char.ofNat code) := by
  rcases of_code code with same | zero
  · refine ⟨?_, by rw [same]; exact free⟩
    intro eq
    exact plain (by rw [← same, eq]; rfl)
  · rw [zero]
    exact ⟨by decide, by decide +kernel⟩

theorem image_settled (run : LowerRun) (member : run ∈ lowerRuns) (code : Nat) (covered : run.covers code = true) :
    Settled (Char.ofNat (code + run.shift).toNat) := by
  apply settled_of_code
  · have avoids := List.all_eq_true.mp runs_avoid_dotted run member
    obtain ⟨lower, upper, _⟩ := (covers_iff run code).mp covered
    simp only [LowerRun.avoidsDotted, Bool.or_eq_true, decide_eq_true_eq] at avoids
    omega
  · rw [List.any_eq_false]
    intro other otherMember
    have misses := List.all_eq_true.mp (List.all_eq_true.mp runs_miss_runs run member) other otherMember
    simp [image_not_covered run other code misses covered]

theorem lower_char_settled (c : Char) : ∀ d ∈ lowerChar c, Settled d := by
  rw [lowerChar]
  split
  · intro d member
    rcases List.mem_cons.mp member with rfl | last
    · exact ⟨by decide, by decide +kernel⟩
    · obtain rfl := List.mem_singleton.mp last
      exact ⟨by decide, by decide +kernel⟩
  · rename_i plain
    cases found : lowerRuns.find? (·.covers c.toNat) with
    | none =>
        intro d member
        obtain rfl := List.mem_singleton.mp member
        exact ⟨plain, by simpa [List.any_eq_false] using List.find?_eq_none.mp found⟩
    | some run =>
        intro d member
        obtain rfl := List.mem_singleton.mp member
        have covered : run.covers c.toNat = true := by simpa using List.find?_some found
        exact image_settled run (List.mem_of_find?_eq_some found) c.toNat covered

theorem settled_lower_char (c : Char) (settled : Settled c) : lowerChar c = [c] := by
  have none : lowerRuns.find? (·.covers c.toNat) = none := by
    simpa [List.any_eq_false] using settled.2
  simp [lowerChar, settled.1, none]

theorem settled_not_sigma (c : Char) (settled : Settled c) : c ≠ 'Σ' := by
  intro sigma
  subst sigma
  exact absurd settled.2 (by decide +kernel)

theorem lower_after_settled (before cs : List Char) : ∀ d ∈ lowerAfter before cs, Settled d := by
  induction cs generalizing before with
  | nil => simp [lowerAfter]
  | cons c rest ih =>
      intro d member
      rcases List.mem_append.mp member with head | tail
      · by_cases sigma : c = 'Σ'
        · rw [if_pos sigma, List.mem_singleton] at head
          subst head
          split
          · exact ⟨by decide, by decide +kernel⟩
          · exact ⟨by decide, by decide +kernel⟩
        · rw [if_neg sigma] at head
          exact lower_char_settled c d head
      · exact ih (c :: before) d tail

theorem lower_after_fixed (before cs : List Char) (settled : ∀ c ∈ cs, Settled c) :
    lowerAfter before cs = cs := by
  induction cs generalizing before with
  | nil => rfl
  | cons c rest ih =>
      have head := settled c (by simp)
      rw [lowerAfter, if_neg (settled_not_sigma c head), settled_lower_char c head,
        ih (c :: before) fun d member => settled d (by simp [member])]
      rfl

theorem settled_to_lower (c : Char) (settled : Settled c) : c.toLower = c := by
  unfold Char.toLower
  split
  · rename_i capital
    have covered : LowerRun.covers ⟨0x41, 0x5a, 1, 32⟩ c.toNat = true := by
      rw [covers_iff]
      exact ⟨capital.1, capital.2, Nat.mod_one _⟩
    have free := List.any_eq_false.mp settled.2 ⟨0x41, 0x5a, 1, 32⟩ (List.mem_cons_self ..)
    exact absurd covered free
  · rfl

theorem ascii_lower_settled : ∀ code : Fin 128, Settled (Char.ofNat code).toLower := by
  decide +kernel

theorem to_lower_settled (c : Char) (ascii : isAscii c = true) : Settled c.toLower := by
  have bound : c.toNat < 128 := by simpa [isAscii] using ascii
  simpa using ascii_lower_settled ⟨c.toNat, bound⟩

theorem fold_settled (cs : List Char) : ∀ d ∈ fold cs, Settled d := by
  rw [fold]
  split
  · rename_i ascii
    intro d member
    obtain ⟨c, inside, rfl⟩ := List.mem_map.mp member
    exact to_lower_settled c (List.all_eq_true.mp ascii c inside)
  · exact lower_after_settled [] cs

theorem fold_fixed (cs : List Char) (settled : ∀ c ∈ cs, Settled c) : fold cs = cs := by
  rw [fold]
  split
  · calc
      cs.map Char.toLower = cs.map id := List.map_congr_left fun c member => settled_to_lower c (settled c member)
      _ = cs := List.map_id cs
  · exact lower_after_fixed [] cs settled

theorem fold_fold (cs : List Char) : fold (fold cs) = fold cs := fold_fixed (fold cs) (fold_settled cs)

theorem folded_folded (s : String) : folded (folded s) = folded s := by
  simp [folded, fold_fold]

end TokenFilter.Text
