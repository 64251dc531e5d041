import TokenFilter.Proofs.Chains
import TokenFilter.Proofs.Footprint
import TokenFilter.Proofs.Soundness

set_option autoImplicit false

namespace TokenFilter

section Copies

variable {α : Type} [BEq α] [LawfulBEq α]

theorem dedup_all_seen (xs more : List α) (seen : ∀ a ∈ more, a ∈ xs) : (xs ++ more).eraseDups = xs.eraseDups := by
  have gone : more.removeAll xs = [] := by
    simpa [List.removeAll] using seen
  rw [List.eraseDups_append, gone, List.eraseDups_nil, List.append_nil]

theorem dedup_front (xs ys more : List α) (same : xs.eraseDups = ys.eraseDups) :
    (xs ++ more).eraseDups = (ys ++ more).eraseDups := by
  have members : ∀ a, a ∈ xs ↔ a ∈ ys := by
    intro a
    rw [← List.mem_eraseDups, same, List.mem_eraseDups]
  have rest : more.removeAll xs = more.removeAll ys := by
    simp only [List.removeAll, List.elem_eq_mem, members]
  rw [List.eraseDups_append, List.eraseDups_append, same, rest]

theorem dedup_copies (xs copies : List α) (a : α) (only : ∀ b, b ∈ copies ↔ b = a) :
    (xs ++ copies).eraseDups = (xs ++ [a]).eraseDups := by
  obtain ⟨first, others, rfl⟩ := List.exists_cons_of_ne_nil (List.ne_nil_of_mem ((only a).mpr rfl))
  obtain rfl := (only first).mp List.mem_cons_self
  rw [List.append_cons, dedup_all_seen]
  intro b member
  rw [(only b).mp (List.mem_cons_of_mem _ member)]
  simp

theorem dedup_gathered {β : Type} (f : β → List α) (as : List α) (bs : List β) (seen before : List α)
    (each : List.Forall₂ (fun a b => ∀ c, c ∈ f b ↔ c = a) as bs) (same : seen.eraseDups = before.eraseDups) :
    (seen ++ bs.flatMap f).eraseDups = (before ++ as).eraseDups := by
  induction each generalizing seen before with
  | nil => simpa using same
  | @cons a b as bs only _ ih =>
      have here : (seen ++ f b).eraseDups = (before ++ [a]).eraseDups := by
        rw [dedup_copies seen (f b) a only, dedup_front seen before [a] same]
      have all := ih (seen ++ f b) (before ++ [a]) here
      rwa [List.append_assoc, List.append_assoc] at all

end Copies

-- The slots lead from field to field, all but the last of which are records, and on to a field of the kind. These are
-- the names of the fields.
inductive SchemaOf.Walk : Schema → List Nat → List String → Kind → Prop where
  | last {schema : Schema} {slot : Nat} {field : Field} (place : schema.fields[slot]? = some field) :
      Walk schema [slot] [field.name] field.kind
  | through {schema inner : Schema} {slot : Nat} {field : Field} {slots : List Nat} {names : List String} {kind : Kind}
      (place : schema.fields[slot]? = some field) (record : field.kind.RecordOf inner)
      (deeper : Walk inner slots names kind) : Walk schema (slot :: slots) (field.name :: names) kind

def SchemaOf.Leads (schema : Schema) (path : String) (ref : FieldRef) : Prop :=
  ∃ route, schema.resolve path = .ok route ∧ route.ref = ref

theorem chain_walk (schema : Schema) (segments : List String) (route : Path.Route)
    (chain : Path.Chain schema segments route) : schema.Walk route.slots route.names route.kind := by
  induction chain with
  | last names => exact .last names.place
  | through names record deeper ih => exact .through names.place record ih

theorem leads_spelled (schema : Schema) (path other : String) (ref : FieldRef) (same : Path.SameSpelling path other) :
    schema.Leads path ref ↔ schema.Leads other ref := by
  simp only [SchemaOf.Leads, ← to_option_some, resolve_spelled schema path other same]

namespace Predicate

theorem all_mentions_eq (parts : List Predicate) : allMentions parts = parts.flatMap mentions := by
  induction parts with
  | nil => rfl
  | cons part rest ih => rw [allMentions, List.flatMap_cons, ih]

theorem all_nodes_eq (parts : List Predicate) : allNodes parts = parts.flatMap nodes := by
  induction parts with
  | nil => rfl
  | cons part rest ih => rw [allNodes, List.flatMap_cons, ih]

theorem fold_mentions (combination : Combination) (parts : List Predicate) (p : Predicate)
    (folded : fold combination.join parts = some p) : p.mentions = parts.flatMap mentions := by
  match parts, folded with
  | [part], folded =>
      cases folded
      simp
  | part :: next :: rest, folded =>
      cases folded
      rw [← all_mentions_eq]
      cases combination <;> rfl

theorem fold_nodes (combination : Combination) (parts : List Predicate) (p node : Predicate) (target : Target)
    (folded : fold combination.join parts = some p) (inside : node ∈ p.nodes) (looks : node.target? = some target) :
    ∃ part ∈ parts, node ∈ part.nodes := by
  match parts, folded with
  | [part], folded =>
      cases folded
      exact ⟨p, List.mem_singleton_self _, inside⟩
  | part :: next :: rest, folded =>
      cases folded
      have inParts : node ∈ allNodes (part :: next :: rest) := by
        cases combination with
        | and =>
            rcases List.mem_cons.mp inside with rfl | below
            · cases looks
            · exact below
        | or =>
            rcases List.mem_cons.mp inside with rfl | below
            · cases looks
            · exact below
      rw [all_nodes_eq] at inParts
      exact List.mem_flatMap.mp inParts

theorem node_mentioned (p node : Predicate) (ref : FieldRef) (inside : node ∈ p.nodes)
    (looks : node.target? = some (.field ref)) : ref ∈ p.mentions := by
  rw [mentions_nodes]
  exact List.mem_filterMap.mpr ⟨node, inside, (own_field_iff node ref).mpr looks⟩

end Predicate

section Split

variable {α β γ : Type} {R : α → β → Prop} {S : β → γ → Prop}

theorem forall_between {as : List α} {cs : List γ} (each : List.Forall₂ (fun a c => ∃ b, R a b ∧ S b c) as cs) :
    ∃ bs, List.Forall₂ R as bs ∧ List.Forall₂ S bs cs := by
  induction each with
  | nil => exact ⟨[], .nil, .nil⟩
  | cons here _ ih =>
      obtain ⟨b, left, right⟩ := here
      obtain ⟨bs, lefts, rights⟩ := ih
      exact ⟨b :: bs, .cons left lefts, .cons right rights⟩

end Split

theorem token_mentioned (kind : Kind) (target : Target) (levels : Nat) (token : Token) (p : Predicate)
    (shape : TokenShape kind target levels token p) : ∀ ref ∈ target.fields, ref ∈ p.mentions := by
  induction shape with
  | @leaf token leaf shape =>
      have own : leaf.mentions = target.fields := by cases shape <;> rfl
      intro ref looked
      split
      · exact List.mem_append_left _ looked
      · exact own ▸ looked
  | not inner ih => exact ih

theorem alternatives_mentioned (kind : Kind) (target : Target) (tokens : List Token) (p : Predicate)
    (shape : Alternatives kind target tokens p) : ∀ ref ∈ target.fields, ref ∈ p.mentions := by
  refine joined_parts (fun q => ∀ ref ∈ target.fields, ref ∈ q.mentions) _ shape ?_ (fun q looks => looks) ?_
  · intro token _ q shaped
    obtain ⟨levels, _, tokenShape⟩ := shaped
    exact token_mentioned kind target levels token q tokenShape
  · intro parts several each ref looked
    obtain ⟨part, rest, rfl⟩ := List.exists_cons_of_ne_nil (List.ne_nil_of_length_pos (by omega : 0 < parts.length))
    exact (mem_all_mentions _ ref).mpr ⟨part, List.mem_cons_self, each part List.mem_cons_self ref looked⟩

section Readings

variable (reading : Reading) (p : Predicate) (shape : ReadingShape reading p)
include shape

theorem reading_mentions_iff (ref : FieldRef) : ref ∈ p.mentions ↔ ref = reading.route.ref := by
  constructor
  · exact reading_mentions reading p shape ref
  · rintro rfl
    cases shape with
    | scalar plain tokens => exact alternatives_mentioned _ _ _ p tokens _ List.mem_cons_self
    | collection items tokens => exact List.mem_cons_self

theorem reading_collection (collection : reading.route.kind.item?.isSome = true) (node : Predicate) (ref : FieldRef)
    (inside : node ∈ p.nodes) (looks : node.target? = some (.field ref)) :
    ∃ inner, node = .exists (.field ref) inner := by
  cases shape with
  | scalar plain tokens => simp [plain] at collection
  | @collection item inner items tokens =>
      rcases List.mem_cons.mp inside with rfl | below
      · cases looks
        exact ⟨inner, rfl⟩
      · have mentioned := Predicate.node_mentioned inner node ref below looks
        cases alternatives_mentions item .item _ inner tokens ref mentioned

end Readings

theorem entry_leads (schema : Schema) (entry : Entry) (part : Predicate) (shape : schema.EntryShape entry part) :
    ∃ ref, schema.Leads entry.path ref ∧ ∀ other, other ∈ part.mentions ↔ other = ref := by
  obtain ⟨reading, read, readingShape⟩ := shape
  obtain ⟨resolved, _⟩ := (read_entry_ok_iff schema entry reading).mp read
  exact ⟨reading.route.ref, ⟨reading.route, resolved, rfl⟩, reading_mentions_iff reading part readingShape⟩

section Compiled

variable (schema : Schema) (query : Query) (combination : Combination) (p : Predicate)
  (compiled : (compile schema query combination).result = .ok (some p))
include compiled

theorem compile_listing :
    ∃ refs, List.Forall₂ (fun entry ref => schema.Leads entry.path ref) (query.filter schema.contributes) refs ∧
      p.fields = refs.eraseDups := by
  obtain ⟨parts, folded, each⟩ := compile_parts schema query combination (some p) compiled
  have split := each.imp (entry_leads schema)
  obtain ⟨refs, leads, only⟩ := forall_between split
  refine ⟨refs, leads, ?_⟩
  have gathered := dedup_gathered Predicate.mentions refs parts [] [] only rfl
  rw [List.nil_append, List.nil_append] at gathered
  rw [Predicate.fields, Predicate.fold_mentions combination parts p folded, gathered]

theorem field_route (ref : FieldRef) (member : ref ∈ p.fields) :
    ∃ path route, schema.resolve path = .ok route ∧ route.ref = ref := by
  obtain ⟨entry, _, route, resolved, same⟩ :=
    compile_mentions schema query combination p compiled ref (List.mem_eraseDups.mp member)
  exact ⟨entry.path, route, resolved, same⟩

-- Entries that lead to the same slots lead to one kind, so all of them are for the collection.
theorem compile_collection (path : String) (route : Path.Route) (resolved : schema.resolve path = .ok route)
    (collection : route.kind.item?.isSome = true) (node : Predicate) (inside : node ∈ p.nodes)
    (looks : node.target? = some (.field route.ref)) : ∃ inner, node = .exists (.field route.ref) inner := by
  obtain ⟨parts, folded, each⟩ := compile_parts schema query combination (some p) compiled
  obtain ⟨part, member, within⟩ :=
    Predicate.fold_nodes combination parts p node (.field route.ref) folded inside looks
  obtain ⟨entry, _, reading, read, shape⟩ := forall_mem_right each part member
  obtain ⟨resolvedEntry, _⟩ := (read_entry_ok_iff schema entry reading).mp read
  have same : route.ref = reading.route.ref :=
    (reading_mentions_iff reading part shape route.ref).mp (Predicate.node_mentioned part node _ within looks)
  have slots : route.slots = reading.route.slots := congrArg FieldRef.slots same
  have kinds : route.kind = reading.route.kind := by
    have here := resolve_kind_at schema path route resolved
    rw [slots, resolve_kind_at schema entry.path reading.route resolvedEntry] at here
    exact (Option.some.inj here).symm
  exact reading_collection reading part shape (kinds ▸ collection) node route.ref within looks

-- The fields of a compiled predicate are those to which its contributing entries lead, in the order of the query and
-- each once, however it is spelled. Each is reached over fields whose names are its path, and a collection is looked
-- at by nothing but `exists`.
theorem compile_fields :
    (∃ refs, List.Forall₂ (fun entry ref => schema.Leads entry.path ref) (query.filter schema.contributes) refs ∧
      p.fields = refs.eraseDups) ∧
    p.fields.Nodup ∧
    (∀ path other ref, Path.SameSpelling path other → (schema.Leads path ref ↔ schema.Leads other ref)) ∧
    ∀ ref ∈ p.fields, ∃ names kind, schema.Walk ref.slots names kind ∧ ref.path = ".".intercalate names ∧
      (kind.item?.isSome = true → ∀ node ∈ p.nodes, node.target? = some (.field ref) →
        ∃ inner, node = .exists (.field ref) inner) := by
  refine ⟨compile_listing schema query combination p compiled, ?_, leads_spelled schema, ?_⟩
  · refine p.fields_first.imp ?_
    intro first second earlier same
    exact absurd earlier (by simp [same])
  · intro ref member
    obtain ⟨path, route, resolved, rfl⟩ := field_route schema query combination p compiled ref member
    have walk := chain_walk schema _ route ((resolve_chain schema path route).mp resolved)
    have within := compile_collection schema query combination p compiled path route resolved
    exact ⟨route.names, route.kind, walk, rfl, within⟩

end Compiled

theorem compile_fields_of_people :
    let home : Schema := ⟨"homes", "Home", [⟨"City", .text⟩]⟩
    let schema : Schema := ⟨"people", "Person",
      [⟨"Age", .nullable .int⟩, ⟨"Home", .nullable (.record home)⟩, ⟨"Tags", .list .text⟩]⟩
    let query : Query := [⟨"TAGS", ["a"]⟩, ⟨"home.city", ["x"]⟩, ⟨"age", ["old"]⟩, ⟨"tags", ["b", "not(c)"]⟩,
      ⟨"size", ["1"]⟩, ⟨" Home.CITY ", ["y"]⟩]
    let tags : FieldRef := ⟨"Tags", [2]⟩
    let city : FieldRef := ⟨"Home.City", [1, 0]⟩
    let p : Predicate := .or
      [.exists (.field tags) (.contains .item (.text "a")), .contains (.field city) (.text "x"),
        .exists (.field tags) (.or [.contains .item (.text "b"), .not (.contains .item (.text "c"))]),
        .contains (.field city) (.text "y")]
    (compile schema query .or).result = .ok (some p) ∧ p.fields = [tags, city] ∧
      (∃ refs, List.Forall₂ (fun entry ref => schema.Leads entry.path ref) (query.filter schema.contributes) refs ∧
        p.fields = refs.eraseDups) ∧
      p.fields.Nodup ∧
      (∀ path other ref, Path.SameSpelling path other → (schema.Leads path ref ↔ schema.Leads other ref)) ∧
      ∀ ref ∈ p.fields, ∃ names kind, schema.Walk ref.slots names kind ∧ ref.path = ".".intercalate names ∧
        (kind.item?.isSome = true → ∀ node ∈ p.nodes, node.target? = some (.field ref) →
          ∃ inner, node = .exists (.field ref) inner) :=
  ⟨rfl, by decide, compile_fields _ _ .or _ rfl⟩

end TokenFilter
