import Mathlib.Data.List.Induction
import Mathlib.Data.List.Nodup
import Mathlib.Data.List.Zip
import TokenFilter.Proofs.Agreement

set_option autoImplicit false

namespace TokenFilter

namespace Query

def Has (query : Query) (path text : String) : Prop := ∃ entry ∈ query, entry.path = path ∧ text ∈ entry.tokens

def Names (query : Query) (path : String) : Prop := ∃ entry ∈ query, entry.path = path

theorem has_cons (entry : Entry) (rest : Query) (path text : String) :
    Has (entry :: rest) path text ↔ entry.path = path ∧ text ∈ entry.tokens ∨ Has rest path text := by
  simp [Has]

theorem push_has (path : String) (tokens : List String) (query : Query) (other text : String) :
    (query.push path tokens).Has other text ↔ query.Has other text ∨ path = other ∧ text ∈ tokens := by
  induction query with
  | nil => simp [push, Has]
  | cons entry rest ih =>
      by_cases same : entry.path = path
      · rw [push, if_pos same, has_cons, has_cons, List.mem_append, and_or_left, same]
        exact or_right_comm
      · rw [push, if_neg same, has_cons, has_cons, ih, or_assoc]

theorem push_names (path : String) (tokens : List String) (query : Query) (other : String) :
    (query.push path tokens).Names other ↔ query.Names other ∨ path = other := by
  induction query with
  | nil => simp [push, Names]
  | cons entry rest ih =>
      by_cases same : entry.path = path
      · rw [push, if_pos same]
        simp [Names, same, or_right_comm]
      · rw [push, if_neg same]
        simp only [Names, List.mem_cons, exists_eq_or_imp] at ih ⊢
        rw [ih, or_assoc]

theorem push_nodup (path : String) (tokens : List String) (query : Query) (distinct : (query.map Entry.path).Nodup) :
    ((query.push path tokens).map Entry.path).Nodup := by
  by_cases present : path ∈ query.map Entry.path
  · rw [push_of_mem path tokens query present]
    exact distinct
  · rw [push_of_not_mem path tokens query present, List.map_append]
    simpa [List.nodup_append] using ⟨distinct, by simpa using present⟩

theorem collect_concat (pairs : List (String × List String)) (pair : String × List String) :
    collect (pairs ++ [pair]) = (collect pairs).push pair.1 pair.2 := by
  simp [collect, List.foldl_append]

theorem collect_has (pairs : List (String × List String)) (path text : String) :
    (collect pairs).Has path text ↔ ∃ pair ∈ pairs, pair.1 = path ∧ text ∈ pair.2 := by
  induction pairs using List.reverseRecOn with
  | nil => simp [collect, Has]
  | append_singleton pairs pair ih =>
      rw [collect_concat, push_has, ih]
      simp [or_and_right, exists_or]

theorem collect_names (pairs : List (String × List String)) (path : String) :
    (collect pairs).Names path ↔ ∃ pair ∈ pairs, pair.1 = path := by
  induction pairs using List.reverseRecOn with
  | nil => simp [collect, Names]
  | append_singleton pairs pair ih =>
      rw [collect_concat, push_names, ih]
      simp [or_and_right, exists_or]

theorem collect_nodup (pairs : List (String × List String)) : ((collect pairs).map Entry.path).Nodup := by
  induction pairs using List.reverseRecOn with
  | nil => exact List.nodup_nil
  | append_singleton pairs pair ih =>
      rw [collect_concat]
      exact push_nodup pair.1 pair.2 (collect pairs) ih

theorem collected_tokens (pairs : List (String × List String)) (entry : Entry) (member : entry ∈ collect pairs)
    (text : String) : text ∈ entry.tokens ↔ ∃ pair ∈ pairs, pair.1 = entry.path ∧ text ∈ pair.2 := by
  rw [← collect_has]
  constructor
  · intro given
    exact ⟨entry, member, rfl, given⟩
  · intro given
    obtain ⟨other, inside, samePath, here⟩ := given
    have same := List.inj_on_of_nodup_map (collect_nodup pairs) inside member samePath
    exact same ▸ here

structure Regroups (query other : Query) : Prop where
  names : ∀ path, query.Names path → ∃ like, other.Names like ∧ Path.SameSpelling path like
  texts : ∀ path text, query.Has path text → ∃ like, other.Has like text ∧ Path.SameSpelling path like

def Respells (pairs others : List (String × List String)) : Prop :=
  List.Forall₂ (fun pair other => Path.SameSpelling pair.1 other.1 ∧ pair.2 = other.2) pairs others

instance (pairs others : List (String × List String)) : Decidable (Respells pairs others) :=
  inferInstanceAs (Decidable (List.Forall₂ _ pairs others))

theorem respells_symm (pairs others : List (String × List String)) (respelled : Respells pairs others) :
    Respells others pairs :=
  respelled.flip.imp fun _ _ same => ⟨same.1.symm, same.2.symm⟩

def SameMerges (pairs others : List (String × List String)) : Prop :=
  ∀ x ∈ pairs.zip others, ∀ y ∈ pairs.zip others, x.1.1 = y.1.1 ↔ x.2.1 = y.2.1

instance (pairs others : List (String × List String)) : Decidable (SameMerges pairs others) :=
  inferInstanceAs (Decidable (∀ x ∈ pairs.zip others, ∀ y ∈ pairs.zip others, x.1.1 = y.1.1 ↔ x.2.1 = y.2.1))

theorem same_merges_symm (pairs others : List (String × List String)) (merges : SameMerges pairs others) :
    SameMerges others pairs := by
  have swapped : ∀ x ∈ others.zip pairs, x.swap ∈ pairs.zip others := by
    intro x member
    rw [← List.zip_swap]
    exact List.mem_map_of_mem member
  intro x member y inside
  exact (merges x.swap (swapped x member) y.swap (swapped y inside)).symm

end Query

section Regrouped

variable (schema : Schema) {query other : Query} (combination : Combination)

theorem compile_fails_texts (query : Query) :
    (∃ e, (compile schema query combination).result = .error e) ↔
      (∃ path, query.Names path ∧ schema.Knows path ∧ ∃ e, schema.resolve path = .error e) ∨
        ∃ path text, query.Has path text ∧ schema.Knows path ∧ schema.Refuses path text := by
  rw [compile_fails_iff]
  simp only [schema.rejected_texts]
  constructor
  · intro found
    obtain ⟨entry, member, known, failed | ⟨text, given, refused⟩⟩ := found
    · exact .inl ⟨entry.path, ⟨entry, member, rfl⟩, known, failed⟩
    · exact .inr ⟨entry.path, text, ⟨entry, member, rfl, given⟩, known, refused⟩
  · intro found
    rcases found with ⟨_, ⟨entry, member, rfl⟩, known, failed⟩ | ⟨_, text, ⟨entry, member, rfl, given⟩, known, refused⟩
    · exact ⟨entry, member, known, .inl failed⟩
    · exact ⟨entry, member, known, .inr ⟨text, given, refused⟩⟩

theorem compiled_known (query : Query) (result : Option Predicate)
    (compiled : (compile schema query combination).result = .ok result) (entry : Entry) (member : entry ∈ query)
    (known : schema.Knows entry.path) (e : Error) : ¬ schema.Rejects entry e := by
  intro rejected
  obtain ⟨failure, failed⟩ := (compile_fails_iff schema query combination).mpr ⟨entry, member, known, e, rejected⟩
  cases compiled.symm.trans failed

theorem compile_some_texts (query : Query) (result : Option Predicate)
    (compiled : (compile schema query combination).result = .ok result) :
    result ≠ none ↔
      ∃ path text, query.Has path text ∧ schema.Knows path ∧ schema.Gives (fun _ _ => True) path text := by
  rw [ne_eq, compile_none_iff schema query combination result compiled]
  simp only [Bool.eq_false_iff, ne_eq, not_forall, not_not, schema.contributes_iff]
  constructor
  · intro found
    obtain ⟨entry, member, _, known, text, given, survives⟩ := found
    exact ⟨entry.path, text, ⟨entry, member, rfl, given⟩, known, survives⟩
  · intro found
    obtain ⟨_, text, ⟨entry, member, rfl, given⟩, known, survives⟩ := found
    have fine := compiled_known schema combination query result compiled entry member known
    exact ⟨entry, member, fine, known, text, given, survives⟩

theorem compile_or_texts (query : Query) (p : Predicate) (entity : Entity)
    (compiled : (compile schema query .or).result = .ok (some p)) :
    p.holds entity = true ↔
      ∃ path text, query.Has path text ∧ schema.Knows path ∧ schema.Gives (Path.Route.Matches entity) path text := by
  rw [compiled_holds schema query .or p entity compiled]
  simp only [Combination.Asks, List.mem_filter, schema.contributes_iff, schema.matches_iff]
  constructor
  · intro found
    obtain ⟨entry, ⟨member, _, known, _⟩, _, text, given, here⟩ := found
    exact ⟨entry.path, text, ⟨entry, member, rfl, given⟩, known, here⟩
  · intro found
    obtain ⟨_, text, ⟨entry, member, rfl, given⟩, known, here⟩ := found
    have fine := compiled_known schema .or query (some p) compiled entry member known
    have survives := schema.gives_something _ entry.path text here
    exact ⟨entry, ⟨member, fine, known, text, given, survives⟩, fine, text, given, here⟩

section Carried

variable (there : query.Regroups other)

include there

theorem some_named (ask : String → Prop) (same : ∀ path like, Path.SameSpelling path like → (ask path ↔ ask like))
    (found : ∃ path, query.Names path ∧ ask path) : ∃ path, other.Names path ∧ ask path := by
  obtain ⟨path, named, here⟩ := found
  obtain ⟨like, inside, spelled⟩ := there.names path named
  exact ⟨like, inside, (same path like spelled).mp here⟩

theorem some_text (ask : String → String → Prop)
    (same : ∀ path like text, Path.SameSpelling path like → (ask path text ↔ ask like text))
    (found : ∃ path text, query.Has path text ∧ ask path text) : ∃ path text, other.Has path text ∧ ask path text := by
  obtain ⟨path, text, given, here⟩ := found
  obtain ⟨like, inside, spelled⟩ := there.texts path text given
  exact ⟨like, text, inside, (same path like text spelled).mp here⟩

end Carried

theorem compile_regrouped (there : query.Regroups other) (back : other.Regroups query) :
    Agree (fun p q => combination = .or → p.Equivalent q)
      (compile schema query combination).result (compile schema other combination).result := by
  have failing : ∀ path like, Path.SameSpelling path like →
      ((schema.Knows path ∧ ∃ e, schema.resolve path = .error e) ↔
        schema.Knows like ∧ ∃ e, schema.resolve like = .error e) := by
    intro path like spelled
    rw [schema.knows_spelled path like spelled, schema.fails_spelled path like spelled]
  have refused : ∀ path like text, Path.SameSpelling path like →
      (schema.Knows path ∧ schema.Refuses path text ↔ schema.Knows like ∧ schema.Refuses like text) := by
    intro path like text spelled
    rw [schema.knows_spelled path like spelled, schema.refuses_spelled path like text spelled]
  have given : ∀ such path like text, Path.SameSpelling path like →
      (schema.Knows path ∧ schema.Gives such path text ↔ schema.Knows like ∧ schema.Gives such like text) := by
    intro such path like text spelled
    rw [schema.knows_spelled path like spelled, schema.gives_spelled such path like text spelled]
  have asked : ∀ such, (∃ path text, query.Has path text ∧ schema.Knows path ∧ schema.Gives such path text) ↔
      ∃ path text, other.Has path text ∧ schema.Knows path ∧ schema.Gives such path text := by
    intro such
    exact ⟨some_text there _ (given such), some_text back _ (given such)⟩
  refine agree_of _ _ _ ?_ ?_ ?_
  · rw [compile_fails_texts, compile_fails_texts]
    apply or_congr
    · exact ⟨some_named there _ failing, some_named back _ failing⟩
    · exact ⟨some_text there _ refused, some_text back _ refused⟩
  · intro first second compiled compiledOther
    rw [← not_iff_not, ← ne_eq, ← ne_eq, compile_some_texts schema combination query first compiled,
      compile_some_texts schema combination other second compiledOther]
    exact asked _
  · -- Joined by `or`, every text counts by itself, in whatever entry it stands.
    intro p q compiled compiledOther joined entity
    subst joined
    rw [Bool.eq_iff_iff, compile_or_texts schema query p entity compiled,
      compile_or_texts schema other q entity compiledOther]
    exact asked _

end Regrouped

section Respelled

variable {pairs others : List (String × List String)} (respelled : Query.Respells pairs others)

include respelled

theorem respelled_regroups : (Query.collect pairs).Regroups (Query.collect others) := by
  constructor
  · intro path named
    obtain ⟨pair, member, rfl⟩ := (Query.collect_names pairs path).mp named
    obtain ⟨other, inside, spelled, _⟩ := forall_mem_left respelled pair member
    exact ⟨other.1, (Query.collect_names others other.1).mpr ⟨other, inside, rfl⟩, spelled⟩
  · intro path text given
    obtain ⟨pair, member, rfl, listed⟩ := (Query.collect_has pairs path text).mp given
    obtain ⟨other, inside, spelled, sameTokens⟩ := forall_mem_left respelled pair member
    exact ⟨other.1, (Query.collect_has others other.1 text).mpr ⟨other, inside, rfl, sameTokens ▸ listed⟩, spelled⟩

theorem respelled_covers (merges : Query.SameMerges pairs others) :
    (Query.collect pairs).Covers (Query.collect others) := by
  have placed : List.Forall₂ (fun pair other => (pair, other) ∈ pairs.zip others) pairs others :=
    List.forall₂_iff_zip.mpr ⟨respelled.length_eq, fun inside => inside⟩
  intro entry member
  obtain ⟨pair, inside, path⟩ := (Query.collect_names pairs entry.path).mp ⟨entry, member, rfl⟩
  obtain ⟨other, present, here⟩ := forall_mem_left placed pair inside
  obtain ⟨like, found, likePath⟩ := (Query.collect_names others other.1).mpr ⟨other, present, rfl⟩
  refine ⟨like, found, ?_, ?_⟩
  · rw [← path, likePath]
    exact (List.forall₂_zip respelled here).1
  · intro text
    rw [Query.collected_tokens pairs entry member, Query.collected_tokens others like found, ← path, likePath]
    constructor
    · intro given
      obtain ⟨source, listed, samePath, inTokens⟩ := given
      obtain ⟨target, reached, together⟩ := forall_mem_left placed source listed
      have sameTokens := (List.forall₂_zip respelled together).2
      exact ⟨target, reached, (merges _ together _ here).mp samePath, sameTokens ▸ inTokens⟩
    · intro given
      obtain ⟨target, listed, samePath, inTokens⟩ := given
      obtain ⟨source, reached, together⟩ := forall_mem_right placed target listed
      have sameTokens := (List.forall₂_zip respelled together).2
      exact ⟨source, reached, (merges _ together _ here).mpr samePath, sameTokens ▸ inTokens⟩

end Respelled

-- However the paths of the pairs are spelled, the queries collected from them are both invalid, or both ask
-- nothing, or both ask something. They ask the same if fields are joined by `or`, and else if the same pairs
-- are merged in both.
theorem compile_respelled (schema : Schema) (combination : Combination) (pairs others : List (String × List String))
    (respelled : Query.Respells pairs others) :
    Agree (fun p q => combination = .or ∨ Query.SameMerges pairs others → p.Equivalent q)
      (compile schema (Query.collect pairs) combination).result
      (compile schema (Query.collect others) combination).result := by
  have back := Query.respells_symm pairs others respelled
  by_cases merges : Query.SameMerges pairs others
  · have alike := compile_alike schema combination _ _ (respelled_covers respelled merges)
      (respelled_covers back (Query.same_merges_symm pairs others merges))
    exact alike.mono fun p q same _ => same
  · have regrouped := compile_regrouped schema combination (respelled_regroups respelled) (respelled_regroups back)
    exact regrouped.mono fun p q same joined => same (joined.resolve_right merges)

theorem compile_respelled_of_people :
    let schema : Schema := ⟨"people", "Person", [⟨"Age", .nullable .int⟩, ⟨"Name", .text⟩]⟩
    let pairs := [("age", ["18"]), ("Name", ["ann"]), ("age", ["old", "&30"]), ("Name", ["bob"])]
    let others := [(" AGE", ["18"]), ("name", ["ann"]), (" AGE", ["old", "&30"]), ("name", ["bob"])]
    Query.SameMerges pairs others ∧ Query.Respells pairs others ∧
      Agree Predicate.Equivalent (compile schema (Query.collect pairs) .and).result
        (compile schema (Query.collect others) .and).result := by
  intro schema pairs others
  have merges : Query.SameMerges pairs others := by decide
  have respelled : Query.Respells pairs others := by decide
  refine ⟨merges, respelled, ?_⟩
  exact (compile_respelled schema .and pairs others respelled).mono fun p q same => same (.inr merges)

-- Paths that name one field in two spellings are not merged, and tokens that were alternatives are then all
-- asked for.
theorem respelled_field_not_merged :
    let schema : Schema := ⟨"people", "Person", [⟨"Age", .int⟩]⟩
    let pairs := [("age", ["18"]), ("age", ["30"])]
    let others := [("age", ["18"]), ("Age", ["30"])]
    Query.Respells pairs others ∧
      ¬ Agree Predicate.Equivalent (compile schema (Query.collect pairs) .and).result
        (compile schema (Query.collect others) .and).result := by
  intro schema pairs others
  refine ⟨by decide, ?_⟩
  intro agree
  have answers := agree.answers fun _ => some (.int 18)
  revert answers
  decide

end TokenFilter
