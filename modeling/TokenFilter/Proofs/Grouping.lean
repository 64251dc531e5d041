import TokenFilter.Proofs.Footprint
import TokenFilter.Proofs.Merging

set_option autoImplicit false

namespace TokenFilter

namespace Query

def given (pairs : List (String × List String)) (path : String) : List String :=
  (pairs.filter fun pair => pair.1 == path).flatMap Prod.snd

def firstGiven (pairs : List (String × List String)) (path : String) : Nat :=
  pairs.findIdx fun pair => pair.1 == path

def others (pairs : List (String × List String)) (path : String) : List (String × List String) :=
  pairs.filter fun pair => pair.1 != path

def asPairs (query : Query) : List (String × List String) := query.map fun entry => (entry.path, entry.tokens)

def turned (query : Query) : Query := collect query.asPairs.reverse

def pushed (query : Query) (pairs : List (String × List String)) : Query :=
  pairs.foldl (fun query pair => query.push pair.1 pair.2) query

def grouped (pairs : List (String × List String)) : Query :=
  (pairs.map Prod.fst).eraseDups.map fun path => ⟨path, given pairs path⟩

theorem given_append (pairs more : List (String × List String)) (path : String) :
    given (pairs ++ more) path = given pairs path ++ given more path := by
  simp [given]

theorem given_own (path : String) (tokens : List String) : given [(path, tokens)] path = tokens := by
  simp [given]

theorem given_other (path other : String) (tokens : List String) (different : other ≠ path) :
    given [(other, tokens)] path = [] := by
  simp [given, different]

theorem given_unnamed (pairs : List (String × List String)) (path : String) (unnamed : path ∉ pairs.map Prod.fst) :
    given pairs path = [] := by
  have none : pairs.filter (fun pair => pair.1 == path) = [] := by
    rw [List.filter_eq_nil_iff]
    intro pair member same
    exact unnamed (List.mem_map.mpr ⟨pair, member, by simpa using same⟩)
  rw [given, none, List.flatMap_nil]

theorem push_listed (paths : List String) (tokens : String → List String) (path : String) (more : List String)
    (distinct : paths.Nodup) (listed : path ∈ paths) :
    push path more (paths.map fun other => ⟨other, tokens other⟩) =
      paths.map fun other => ⟨other, if other = path then tokens other ++ more else tokens other⟩ := by
  induction paths with
  | nil => cases listed
  | cons first rest ih =>
      obtain ⟨absent, distinctRest⟩ := List.nodup_cons.mp distinct
      rw [List.map_cons, List.map_cons, push]
      by_cases same : first = path
      · subst same
        have kept : ∀ other ∈ rest, other ≠ first := fun other member eq => absent (eq ▸ member)
        rw [if_pos rfl, if_pos rfl]
        refine congrArg _ (List.map_congr_left ?_)
        intro other member
        rw [if_neg (kept other member)]
      · have inRest : path ∈ rest := (List.mem_cons.mp listed).resolve_left (Ne.symm same)
        rw [if_neg same, if_neg same, ih distinctRest inRest]

theorem grouped_paths (pairs : List (String × List String)) :
    (grouped pairs).map Entry.path = (pairs.map Prod.fst).eraseDups := by
  simp [grouped, Function.comp_def]

theorem first_given_increases (pairs : List (String × List String)) :
    (pairs.map Prod.fst).eraseDups.Pairwise fun first second => firstGiven pairs first < firstGiven pairs second := by
  have ordered := dedup_first (fun pair : String × List String => some pair.1) pairs
  simpa [firstGiven, List.filterMap_eq_map'] using ordered

theorem paths_distinct (pairs : List (String × List String)) : (pairs.map Prod.fst).eraseDups.Nodup := by
  refine (first_given_increases pairs).imp ?_
  intro first second earlier eq
  exact absurd earlier (by simp [eq])

-- One push brings what was grouped so far to what is grouped with it.
theorem push_grouped (pairs : List (String × List String)) (path : String) (tokens : List String) :
    (grouped pairs).push path tokens = grouped (pairs ++ [(path, tokens)]) := by
  by_cases seen : path ∈ pairs.map Prod.fst
  · have listed : path ∈ (pairs.map Prod.fst).eraseDups := List.mem_eraseDups.mpr seen
    rw [grouped, push_listed _ _ path tokens (paths_distinct pairs) listed, grouped, List.map_append]
    change _ = ((pairs.map Prod.fst) ++ [path]).eraseDups.map _
    rw [dedup_seen _ path seen]
    refine List.map_congr_left ?_
    intro other member
    by_cases same : other = path
    · rw [if_pos same, given_append, same, given_own]
    · rw [if_neg same, given_append, given_other other path tokens (Ne.symm same), List.append_nil]
  · have absent : path ∉ (grouped pairs).map Entry.path := by
      rw [grouped_paths, List.mem_eraseDups]
      exact seen
    rw [push_of_not_mem path tokens _ absent, grouped, grouped, List.map_append]
    change _ = ((pairs.map Prod.fst) ++ [path]).eraseDups.map _
    rw [dedup_new _ path seen, List.map_append, List.map_singleton, given_append, given_unnamed pairs path seen,
      given_own, List.nil_append]
    refine congrArg (· ++ _) (List.map_congr_left ?_)
    intro other member
    have different : path ≠ other := by
      intro eq
      exact seen (eq ▸ List.mem_eraseDups.mp member)
    rw [given_append, given_other other path tokens different, List.append_nil]

theorem collect_grouped (pairs : List (String × List String)) : collect pairs = grouped pairs := by
  induction pairs using List.reverseRecOn with
  | nil => rfl
  | append_singleton pairs pair ih => rw [collect_concat, ih, push_grouped]

theorem collect_distinct (query : Query) (distinct : (query.map Entry.path).Nodup) : collect query.asPairs = query := by
  induction query using List.reverseRecOn with
  | nil => rfl
  | append_singleton query entry ih =>
      rw [List.map_append] at distinct
      obtain ⟨before, _, apart⟩ := List.nodup_append.mp distinct
      have absent : entry.path ∉ query.map Entry.path := by
        intro member
        exact apart entry.path member entry.path (by simp) rfl
      have split : asPairs (query ++ [entry]) = asPairs query ++ [(entry.path, entry.tokens)] := by
        simp [asPairs]
      rw [split, collect_concat, ih before, push_of_not_mem entry.path entry.tokens query absent]

theorem turned_reverse (query : Query) (distinct : (query.map Entry.path).Nodup) : query.turned = query.reverse := by
  have mirrored : query.asPairs.reverse = asPairs query.reverse := by
    simp [asPairs]
  rw [turned, mirrored]
  refine collect_distinct query.reverse ?_
  rw [List.map_reverse]
  exact List.nodup_reverse.mpr distinct

theorem turned_twice (query : Query) (distinct : (query.map Entry.path).Nodup) : query.turned.turned = query := by
  have reversed : (query.reverse.map Entry.path).Nodup := by
    rw [List.map_reverse]
    exact List.nodup_reverse.mpr distinct
  rw [turned_reverse query distinct, turned_reverse query.reverse reversed, List.reverse_reverse]

theorem push_again (query : Query) (path : String) (tokens more : List String) :
    (query.push path tokens).push path more = query.push path (tokens ++ more) := by
  induction query with
  | nil => simp [push]
  | cons entry rest ih =>
      by_cases same : entry.path = path
      · simp [push, same]
      · simp [push, same, ih]

theorem push_swap (query : Query) (path other : String) (tokens more : List String) (different : other ≠ path)
    (present : other ∈ query.map Entry.path) :
    (query.push path tokens).push other more = (query.push other more).push path tokens := by
  induction query with
  | nil => cases present
  | cons entry rest ih =>
      by_cases own : entry.path = path
      · have kept : entry.path ≠ other := fun eq => different (eq.symm.trans own)
        simp [push, own, Ne.symm different]
      · by_cases here : entry.path = other
        · simp [push, here, different]
        · have inRest : other ∈ rest.map Entry.path := by
            rcases List.mem_cons.mp present with eq | member
            · exact absurd eq.symm here
            · exact member
          simp [push, own, here, ih inRest]

theorem pushed_append (query : Query) (pairs more : List (String × List String)) :
    query.pushed (pairs ++ more) = (query.pushed pairs).pushed more := by
  simp [pushed, List.foldl_append]

theorem pushed_concat (query : Query) (pairs : List (String × List String)) (pair : String × List String) :
    query.pushed (pairs ++ [pair]) = (query.pushed pairs).push pair.1 pair.2 := pushed_append query pairs [pair]

theorem pushed_keeps (query : Query) (pairs : List (String × List String)) (path : String)
    (present : path ∈ query.map Entry.path) : path ∈ (query.pushed pairs).map Entry.path := by
  induction pairs using List.reverseRecOn with
  | nil => exact present
  | append_singleton pairs pair ih =>
      rw [pushed_concat]
      by_cases seen : pair.1 ∈ (query.pushed pairs).map Entry.path
      · rw [push_of_mem _ _ _ seen]
        exact ih
      · rw [push_of_not_mem _ _ _ seen, List.map_append]
        exact List.mem_append_left _ ih

theorem others_unnamed (pairs : List (String × List String)) (path : String) (unnamed : path ∉ pairs.map Prod.fst) :
    others pairs path = pairs := by
  rw [others, List.filter_eq_self]
  intro pair member
  rw [bne_iff_ne]
  intro same
  exact unnamed (List.mem_map.mpr ⟨pair, member, same⟩)

theorem pushed_gathered (query : Query) (path : String) (steps : List (String × List String))
    (named : path ∈ steps.map Prod.fst)
    (known : ∀ step ∈ steps, step.1 = path ∨ step.1 ∈ query.map Entry.path) :
    query.pushed steps = (query.pushed (others steps path)).push path (given steps path) := by
  induction steps using List.reverseRecOn with
  | nil => cases named
  | append_singleton steps step ih =>
      obtain ⟨other, tokens⟩ := step
      have knownBefore : ∀ step ∈ steps, step.1 = path ∨ step.1 ∈ query.map Entry.path :=
        fun step member => known step (List.mem_append_left _ member)
      rw [pushed_concat, given_append]
      -- The last push is for the path itself, or changes places with the one push that stands for all of that path.
      by_cases same : other = path
      · subst same
        have split : others (steps ++ [(other, tokens)]) other = others steps other := by
          simp [others]
        rw [split, given_own]
        by_cases before : other ∈ steps.map Prod.fst
        · rw [ih before knownBefore, push_again]
        · rw [others_unnamed steps other before, given_unnamed steps other before, List.nil_append]
      · have split : others (steps ++ [(other, tokens)]) path = others steps path ++ [(other, tokens)] := by
          simp [others, same]
        have before : path ∈ steps.map Prod.fst := by
          simpa [Ne.symm same] using named
        have present : other ∈ query.map Entry.path :=
          (known (other, tokens) (by simp)).resolve_left same
        rw [split, pushed_concat, given_other path other tokens same, List.append_nil, ih before knownBefore]
        exact push_swap _ path other _ tokens same (pushed_keeps query _ other present)

theorem collect_append (pairs more : List (String × List String)) :
    collect (pairs ++ more) = (collect pairs).pushed more := pushed_append [] pairs more

theorem given_others (pairs : List (String × List String)) (path : String) : given (others pairs path) path = [] := by
  have none : (others pairs path).filter (fun pair => pair.1 == path) = [] := by
    rw [List.filter_eq_nil_iff]
    intro pair member
    simpa using (List.mem_filter.mp member).2
  rw [given, none, List.flatMap_nil]

theorem pushed_parted (query : Query) (path : String) (steps front back : List (String × List String))
    (named : path ∈ steps.map Prod.fst)
    (known : ∀ step ∈ steps, step.1 = path ∨ step.1 ∈ query.map Entry.path)
    (around : others steps path = front ++ back) :
    query.pushed steps = query.pushed (front ++ (path, given steps path) :: back) := by
  have rest : others (front ++ (path, given steps path) :: back) path = others steps path := by
    calc
      others (front ++ (path, given steps path) :: back) path = others (front ++ back) path := by simp [others]
      _ = others steps path := by rw [← around]; simp [others]
  have tokens : given (front ++ (path, given steps path) :: back) path = given steps path := by
    have free : given front path ++ given back path = [] := by
      rw [← given_append, ← around, given_others]
    obtain ⟨freeFront, freeBack⟩ := List.append_eq_nil_iff.mp free
    rw [← List.singleton_append, given_append, given_append, freeFront, freeBack, given_own, List.nil_append,
      List.append_nil]
  have namedAlike : path ∈ (front ++ (path, given steps path) :: back).map Prod.fst := by
    simp
  have knownAlike : ∀ step ∈ front ++ (path, given steps path) :: back,
      step.1 = path ∨ step.1 ∈ query.map Entry.path := by
    intro step member
    by_cases own : step.1 = path
    · exact .inl own
    · have inRest : step ∈ others (front ++ (path, given steps path) :: back) path :=
        List.mem_filter.mpr ⟨member, by simpa using own⟩
      rw [rest] at inRest
      exact known step (List.mem_of_mem_filter inRest)
  rw [pushed_gathered query path steps named known, pushed_gathered query path _ namedAlike knownAlike, rest, tokens]

-- The entries have distinct paths, in the order in which the paths were first pushed, and each has all the tokens
-- pushed for its path. Its own entries make the same query again, and so do they pushed in reverse order twice.
-- The tokens of one push for a path may be parted into several, among which other paths that are there already
-- may be pushed.
theorem collect_groups (pairs : List (String × List String)) :
    ((collect pairs).map Entry.path).Nodup ∧
    (∀ path, path ∈ (collect pairs).map Entry.path ↔ path ∈ pairs.map Prod.fst) ∧
    (collect pairs).Pairwise (fun first second => firstGiven pairs first.path < firstGiven pairs second.path) ∧
    (∀ entry ∈ collect pairs, entry.tokens = given pairs entry.path) ∧
    collect (collect pairs).asPairs = collect pairs ∧
    (collect pairs).turned.turned = collect pairs ∧
    ∀ (path : String) (steps front back after : List (String × List String)), path ∈ steps.map Prod.fst →
      (∀ step ∈ steps, step.1 = path ∨ step.1 ∈ pairs.map Prod.fst) → others steps path = front ++ back →
      collect (pairs ++ steps ++ after) =
        collect (pairs ++ (front ++ (path, given steps path) :: back) ++ after) := by
  have paths : (collect pairs).map Entry.path = (pairs.map Prod.fst).eraseDups := by
    rw [collect_grouped, grouped_paths]
  have distinct := collect_nodup pairs
  refine ⟨distinct, ?_, ?_, ?_, collect_distinct _ distinct, turned_twice _ distinct, ?_⟩
  · intro path
    rw [paths, List.mem_eraseDups]
  · rw [← List.pairwise_map (f := Entry.path) (R := fun a b => firstGiven pairs a < firstGiven pairs b), paths]
    exact first_given_increases pairs
  · intro entry member
    rw [collect_grouped] at member
    obtain ⟨path, _, rfl⟩ := List.mem_map.mp member
    rfl
  · intro path steps front back after named known around
    have present : ∀ step ∈ steps, step.1 = path ∨ step.1 ∈ (collect pairs).map Entry.path := by
      intro step member
      rw [paths, List.mem_eraseDups]
      exact known step member
    rw [collect_append, collect_append, collect_append, collect_append,
      pushed_parted (collect pairs) path steps front back named present around]

theorem collect_groups_of_people :
    let pairs := [("age", ["18"]), ("name", []), ("age", ["30", "18"])]
    let steps := [("tags", ["a"]), ("age", ["&7"]), ("tags", []), ("name", ["ann"]), ("tags", ["b", "a"])]
    let front := [("age", ["&7"])]
    let back := [("name", ["ann"])]
    let after := [("city", ["Oslo"])]
    "tags" ∈ steps.map Prod.fst ∧ (∀ step ∈ steps, step.1 = "tags" ∨ step.1 ∈ pairs.map Prod.fst) ∧
      others steps "tags" = front ++ back ∧ given steps "tags" = ["a", "b", "a"] ∧
      collect (pairs ++ steps ++ after) = collect (pairs ++ (front ++ ("tags", ["a", "b", "a"]) :: back) ++ after) := by
  intro pairs steps front back after
  have named : "tags" ∈ steps.map Prod.fst := by decide
  have known : ∀ step ∈ steps, step.1 = "tags" ∨ step.1 ∈ pairs.map Prod.fst := by decide
  have around : others steps "tags" = front ++ back := by decide
  have parted := (collect_groups pairs).2.2.2.2.2.2 "tags" steps front back after named known around
  exact ⟨named, known, around, by decide, parted⟩

end Query

end TokenFilter
