import Mathlib.Data.List.DropRight
import TokenFilter.Text.Blank

set_option autoImplicit false

namespace TokenFilter.Text

def Begins (cs : List Char) : Prop := ∀ c ∈ cs.head?, isBlank c = false

def Ends (cs : List Char) : Prop := ∀ c ∈ cs.getLast?, isBlank c = false

theorem ends_reverse (cs : List Char) : Ends cs ↔ Begins cs.reverse := by
  simp [Ends, Begins]

theorem visible_solid (c : Char) (above : 33 ≤ c.toNat) (below : c.toNat ≤ 126) : isBlank c = false := by
  rw [Bool.eq_false_iff]
  intro blank
  obtain ⟨range, member, first, last⟩ := (Ranges.holds_iff blankRanges c).mp blank
  simp only [blankRanges, List.mem_cons, List.not_mem_nil, or_false] at member
  rcases member with rfl | rfl | rfl | rfl | rfl | rfl | rfl | rfl | rfl | rfl <;> simp only at first last <;> omega

theorem alpha_solid (c : Char) (letter : c.isAlpha = true) : isBlank c = false := by
  rcases Bool.or_eq_true_iff.mp letter with upper | lower
  · have range : 65 ≤ c.toNat ∧ c.toNat ≤ 90 := of_decide_eq_true upper
    exact visible_solid c (by omega) (by omega)
  · obtain ⟨first, last⟩ := Bool.and_eq_true_iff.mp lower
    have above : 97 ≤ c.toNat := of_decide_eq_true first
    have below : c.toNat ≤ 122 := of_decide_eq_true last
    exact visible_solid c (by omega) (by omega)

theorem digit_solid (c : Char) (digit : c.isDigit = true) : isBlank c = false := by
  simp only [Char.isDigit, Bool.and_eq_true, decide_eq_true_eq, UInt32.le_iff_toNat_le, ge_iff_le] at digit
  change 48 ≤ c.toNat ∧ c.toNat ≤ 57 at digit
  exact visible_solid c (by omega) (by omega)

theorem begins_cons (c : Char) (cs : List Char) (solid : isBlank c = false) : Begins (c :: cs) := by
  intro d first
  cases first
  exact solid

theorem trim_left_begins (cs : List Char) : Begins (trimLeft cs) := by
  intro c first
  have solid := List.head?_dropWhile_not isBlank cs
  change (trimLeft cs).head? = some c at first
  unfold trimLeft at first
  rw [first] at solid
  exact solid

theorem trim_right_ends (cs : List Char) : Ends (trimRight cs) := by
  rw [ends_reverse, trimRight, List.reverse_reverse]
  exact trim_left_begins cs.reverse

theorem trim_left_fixed (cs : List Char) (begins : Begins cs) : trimLeft cs = cs := by
  cases cs with
  | nil => rfl
  | cons c rest =>
      have solid : isBlank c = false := begins c rfl
      exact List.dropWhile_cons_of_neg (by simp [solid])

theorem trim_right_fixed (cs : List Char) (ends : Ends cs) : trimRight cs = cs := by
  rw [trimRight]
  have fixed := trim_left_fixed cs.reverse ((ends_reverse cs).mp ends)
  rw [trimLeft] at fixed
  rw [fixed, List.reverse_reverse]

theorem trim_fixed (cs : List Char) (begins : Begins cs) (ends : Ends cs) : trim cs = cs := by
  rw [trim, trim_left_fixed cs begins, trim_right_fixed cs ends]

theorem trim_solid (cs : List Char) (solid : ∀ c ∈ cs, isBlank c = false) : trim cs = cs := by
  refine trim_fixed cs ?_ ?_
  · intro c first
    exact solid c (List.mem_of_mem_head? first)
  · intro c last
    exact solid c (List.mem_of_mem_getLast? last)

theorem trim_left_back (cs : List Char) : trimLeft cs <:+ cs := List.dropWhile_suffix isBlank

theorem trim_right_front (cs : List Char) : trimRight cs <+: cs := List.rdropWhile_prefix isBlank cs

theorem begins_front (front cs : List Char) (here : front <+: cs) (begins : Begins cs) : Begins front := by
  obtain ⟨back, rfl⟩ := here
  cases front with
  | nil => simp [Begins]
  | cons c rest => simpa [Begins] using begins

theorem ends_back (back cs : List Char) (here : back <:+ cs) (ends : Ends cs) : Ends back := by
  rw [ends_reverse] at ends ⊢
  exact begins_front back.reverse cs.reverse (List.reverse_prefix.mpr here) ends

theorem trim_begins (cs : List Char) : Begins (trim cs) :=
  begins_front _ _ (trim_right_front (trimLeft cs)) (trim_left_begins cs)

theorem trim_ends (cs : List Char) : Ends (trim cs) := trim_right_ends (trimLeft cs)

theorem trim_trim (cs : List Char) : trim (trim cs) = trim cs := trim_fixed _ (trim_begins cs) (trim_ends cs)

theorem trim_subset (cs : List Char) : trim cs ⊆ cs := by
  intro c inside
  exact (trim_left_back cs).subset ((trim_right_front (trimLeft cs)).subset inside)

theorem trim_front (cs : List Char) (begins : Begins cs) : trim cs <+: cs := by
  rw [trim, trim_left_fixed cs begins]
  exact trim_right_front cs

theorem trim_back (cs : List Char) (ends : Ends cs) : trim cs <:+ cs := by
  have inner := ends_back (trimLeft cs) cs (trim_left_back cs) ends
  rw [trim, trim_right_fixed _ inner]
  exact trim_left_back cs

theorem begins_around (front back : List Char) (c : Char) (solid : isBlank c = false) :
    Begins (front ++ c :: back) ↔ Begins front := by
  cases front with
  | nil => simp [Begins, solid]
  | cons first rest => simp [Begins]

theorem ends_around (front back : List Char) (c : Char) (solid : isBlank c = false) :
    Ends (front ++ c :: back) ↔ Ends back := by
  rw [ends_reverse, ends_reverse, List.reverse_append, List.reverse_cons, List.append_assoc, List.singleton_append]
  exact begins_around back.reverse front.reverse c solid

theorem trim_around (front back cs : List Char) (blank : ∀ c ∈ front, isBlank c = true)
    (blank' : ∀ c ∈ back, isBlank c = true) (someText : cs ≠ []) (begins : Begins cs) (ends : Ends cs) :
    trim (front ++ cs ++ back) = cs := by
  have first : trimLeft (front ++ cs ++ back) = cs ++ back := by
    rw [List.append_assoc, trimLeft, List.dropWhile_append_of_pos blank]
    obtain ⟨c, rest, rfl⟩ := List.exists_cons_of_ne_nil someText
    exact trim_left_fixed _ (begins_cons c _ (begins c rfl))
  have last : trimRight (cs ++ back) = trimRight cs := by
    have turned : ∀ c ∈ back.reverse, isBlank c = true := fun c member => blank' c (List.mem_reverse.mp member)
    rw [trimRight, trimRight, List.reverse_append, List.dropWhile_append_of_pos turned]
  rw [trim, first, last, trim_right_fixed cs ends]

theorem trim_left_split (cs : List Char) : ∃ front, cs = front ++ trimLeft cs ∧ ∀ c ∈ front, isBlank c = true :=
  ⟨cs.takeWhile isBlank, List.takeWhile_append_dropWhile.symm, fun _ member => List.mem_takeWhile_imp member⟩

theorem trim_right_split (cs : List Char) : ∃ back, cs = trimRight cs ++ back ∧ ∀ c ∈ back, isBlank c = true := by
  obtain ⟨front, split, blank⟩ := trim_left_split cs.reverse
  refine ⟨front.reverse, ?_, fun c member => blank c (List.mem_reverse.mp member)⟩
  rw [trimRight, ← List.reverse_append]
  rw [trimLeft] at split
  rw [← split, List.reverse_reverse]

theorem trim_split (cs : List Char) : ∃ front back, cs = front ++ trim cs ++ back ∧
    (∀ c ∈ front, isBlank c = true) ∧ ∀ c ∈ back, isBlank c = true := by
  obtain ⟨front, split, blank⟩ := trim_left_split cs
  obtain ⟨back, split', blank'⟩ := trim_right_split (trimLeft cs)
  refine ⟨front, back, ?_, blank, blank'⟩
  rw [List.append_assoc, trim, ← split', ← split]

theorem count_trim (c : Char) (cs : List Char) (solid : isBlank c = false) : (trim cs).count c = cs.count c := by
  obtain ⟨front, back, split, blank, blank'⟩ := trim_split cs
  have absent : ∀ part : List Char, (∀ d ∈ part, isBlank d = true) → part.count c = 0 := by
    intro part allBlank
    refine List.count_eq_zero.mpr ?_
    intro inside
    rw [allBlank c inside] at solid
    cases solid
  have counts := congrArg (List.count c) split
  rw [List.count_append, List.count_append, absent front blank, absent back blank', Nat.zero_add] at counts
  exact counts.symm

theorem trim_blank (cs : List Char) (blank : ∀ c ∈ cs, isBlank c = true) : trim cs = [] := by
  have none : trimLeft cs = [] := List.dropWhile_eq_nil_iff.mpr blank
  rw [trim, none]
  rfl

theorem trim_within (front back cs : List Char) (blank : ∀ c ∈ front, isBlank c = true)
    (blank' : ∀ c ∈ back, isBlank c = true) : trim (front ++ cs ++ back) = trim cs := by
  obtain ⟨first, last, split, inner, inner'⟩ := trim_split cs
  have around : ∀ c ∈ front ++ first, isBlank c = true := List.forall_mem_append.mpr ⟨blank, inner⟩
  have around' : ∀ c ∈ last ++ back, isBlank c = true := List.forall_mem_append.mpr ⟨inner', blank'⟩
  have whole : front ++ cs ++ back = front ++ first ++ trim cs ++ (last ++ back) := by
    conv => left; rw [split]
    simp only [List.append_assoc]
  by_cases empty : trim cs = []
  · rw [whole, empty, List.append_nil]
    exact trim_blank _ (List.forall_mem_append.mpr ⟨around, around'⟩)
  · rw [whole]
    exact trim_around _ _ _ around around' empty (trim_begins cs) (trim_ends cs)

theorem trim_trim_left (cs : List Char) : trim (trimLeft cs) = trim cs := by
  rw [trim, trim_left_fixed _ (trim_left_begins cs)]
  rfl

theorem trim_trim_right (cs : List Char) : trim (trimRight cs) = trim cs := by
  obtain ⟨back, split, blank⟩ := trim_right_split cs
  have within := trim_within [] back (trimRight cs) (by simp) blank
  rw [List.nil_append, ← split] at within
  exact within.symm

theorem trim_apart (front back : List Char) (c : Char) (solid : isBlank c = false) :
    trim (front ++ c :: back) = trimLeft front ++ c :: trimRight back := by
  obtain ⟨before, split, blank⟩ := trim_left_split front
  obtain ⟨after, split', blank'⟩ := trim_right_split back
  have whole : front ++ c :: back = before ++ (trimLeft front ++ c :: trimRight back) ++ after := by
    conv => left; rw [split, split']
    simp only [List.append_assoc, List.cons_append]
  rw [whole]
  exact trim_around before after _ blank blank' (by simp)
    ((begins_around _ _ c solid).mpr (trim_left_begins front)) ((ends_around _ _ c solid).mpr (trim_right_ends back))

theorem trim_absent (c : Char) (cs : List Char) (solid : isBlank c = false) (absent : c ∉ trim cs) : c ∉ cs := by
  rw [← List.count_eq_zero, ← count_trim c cs solid, List.count_eq_zero]
  exact absent

end TokenFilter.Text
