import TokenFilter.Proofs.Lowering
import TokenFilter.Proofs.Printing
import TokenFilter.Proofs.Spelling

set_option autoImplicit false

namespace TokenFilter

inductive Kind.RecordOf (schema : Schema) : Kind → Prop where
  | plain : RecordOf schema (.record schema)
  | nullable {inner : Kind} (within : inner.RecordOf schema) : RecordOf schema (.nullable inner)

structure SchemaOf.Names (schema : Schema) (segment : String) (slot : Nat) (field : Field) : Prop where
  place : schema.fields[slot]? = some field
  named : Text.folded field.name = Path.key segment
  first : ∀ earlier < slot, ∀ other, schema.fields[earlier]? = some other → Text.folded other.name ≠ Path.key segment

namespace Path

inductive Chain : Schema → List String → Route → Prop where
  | last {schema : Schema} {segment : String} {slot : Nat} {field : Field} (names : schema.Names segment slot field) :
      Chain schema [segment] ⟨[field.name], [slot], field.kind⟩
  | through {schema inner : Schema} {segment next : String} {rest : List String} {slot : Nat} {field : Field}
      {route : Route} (names : schema.Names segment slot field) (record : field.kind.RecordOf inner)
      (deeper : Chain inner (next :: rest) route) :
      Chain schema (segment :: next :: rest) ⟨field.name :: route.names, slot :: route.slots, route.kind⟩

inductive Breaks (root path : String) : Schema → List String → Error → Prop where
  | unresolved {schema : Schema} {segment : String} {rest : List String}
      (unnamed : ∀ field ∈ schema.fields, Text.folded field.name ≠ key segment) :
      Breaks root path schema (segment :: rest) (.unresolvedPath root path segment)
  | nonRecord {schema : Schema} {segment next : String} {rest : List String} {slot : Nat} {field : Field}
      (names : schema.Names segment slot field) (plain : ∀ inner, ¬ field.kind.RecordOf inner) :
      Breaks root path schema (segment :: next :: rest) (.nonRecordSegment root path field.name)
  | through {schema inner : Schema} {segment next : String} {rest : List String} {slot : Nat} {field : Field}
      {e : Error} (names : schema.Names segment slot field) (record : field.kind.RecordOf inner)
      (deeper : Breaks root path inner (next :: rest) e) : Breaks root path schema (segment :: next :: rest) e

end Path

namespace Kind

theorem record_of_non_null (kind : Kind) (schema : Schema) (bare : kind.nonNull = .record schema) :
    kind.RecordOf schema := by
  fun_induction nonNull kind with
  | case1 inner ih => exact .nullable (ih bare)
  | case2 kind plain =>
      subst bare
      exact .plain

theorem record_iff (kind : Kind) (schema : Schema) : kind.record? = some schema ↔ kind.RecordOf schema := by
  constructor
  · intro found
    rw [record?] at found
    split at found
    · rename_i inner bare
      cases found
      exact record_of_non_null kind schema bare
    · cases found
  · intro record
    induction record with
    | plain => rfl
    | nullable within ih => exact ih

end Kind

namespace SchemaOf

theorem slot_some_iff (schema : Schema) (segment : String) (slot : Nat) (field : Field)
    (place : schema.fields[slot]? = some field) :
    schema.slot? segment = some slot ↔ schema.Names segment slot field := by
  obtain ⟨bound, here⟩ := List.getElem?_eq_some_iff.mp place
  rw [slot?, slotNamed?, List.findIdx?_eq_some_iff_getElem, Text.folded_folded]
  simp only [beq_iff_eq]
  constructor
  · intro found
    obtain ⟨_, named, first⟩ := found
    rw [here] at named
    refine ⟨place, named, ?_⟩
    intro earlier before other at_earlier
    obtain ⟨_, rfl⟩ := List.getElem?_eq_some_iff.mp at_earlier
    exact first earlier before
  · intro names
    refine ⟨bound, by rw [here]; exact names.named, ?_⟩
    intro earlier before
    exact names.first earlier before _ (List.getElem?_eq_getElem _)

theorem field_some_iff (schema : Schema) (segment : String) (slot : Nat) (field : Field) :
    schema.field? segment = some (slot, field) ↔ schema.Names segment slot field := by
  constructor
  · intro found
    have place := field_at_slot schema segment slot field found
    rw [← slot_some_iff schema segment slot field place]
    obtain ⟨other, named, read⟩ := Option.bind_eq_some_iff.mp found
    obtain ⟨_, _, same⟩ := Option.map_eq_some_iff.mp read
    cases same
    exact named
  · intro names
    have named := (slot_some_iff schema segment slot field names.place).mpr names
    simp [field?, named, names.place]

theorem field_none_iff (schema : Schema) (segment : String) :
    schema.field? segment = none ↔ ∀ field ∈ schema.fields, Text.folded field.name ≠ Path.key segment := by
  rw [← Option.not_isSome_iff_eq_none, field_is_some_iff]
  simp [Path.key]

end SchemaOf

namespace Path

-- What the walk does at each step is what one of the two judgements says of it.
theorem follow_outcome (root path : String) (current : Schema) (segment : String) (rest : List String) :
    (∃ route, follow root path current segment rest = .ok route ∧ Chain current (segment :: rest) route) ∨
      ∃ e, follow root path current segment rest = .error e ∧ Breaks root path current (segment :: rest) e := by
  induction rest generalizing current segment with
  | nil =>
      cases found : current.field? segment with
      | none =>
          have unnamed := (current.field_none_iff segment).mp found
          exact .inr ⟨_, by simp [follow, found], .unresolved unnamed⟩
      | some place =>
          obtain ⟨slot, field⟩ := place
          have names := (current.field_some_iff segment slot field).mp found
          exact .inl ⟨_, by simp [follow, found, Route.start], .last names⟩
  | cons next rest ih =>
      cases found : current.field? segment with
      | none =>
          have unnamed := (current.field_none_iff segment).mp found
          exact .inr ⟨_, by simp [follow, found], .unresolved unnamed⟩
      | some place =>
          obtain ⟨slot, field⟩ := place
          have names := (current.field_some_iff segment slot field).mp found
          cases record : field.kind.record? with
          | none =>
              have plain : ∀ inner, ¬ field.kind.RecordOf inner := by
                intro inner holds
                rw [(Kind.record_iff field.kind inner).mpr holds] at record
                cases record
              exact .inr ⟨_, by simp [follow, found, record], .nonRecord names plain⟩
          | some inner =>
              have holds := (Kind.record_iff field.kind inner).mp record
              rcases ih inner next with ⟨route, led, deeper⟩ | ⟨e, failed, deeper⟩
              · have here : follow root path current segment (next :: rest) = .ok (.through slot field route) := by
                  simp [follow, found, record, led, Except.map]
                exact .inl ⟨_, here, .through names holds deeper⟩
              · have here : follow root path current segment (next :: rest) = .error e := by
                  simp [follow, found, record, failed, Except.map]
                exact .inr ⟨e, here, .through names holds deeper⟩

theorem chain_followed (root path : String) (current : Schema) (segments : List String) (route : Route)
    (chain : Chain current segments route) :
    follow root path current (segments.headD "") segments.tail = .ok route := by
  induction chain with
  | @last schema segment slot field names =>
      have found := (schema.field_some_iff segment slot field).mpr names
      simp [follow, found, Route.start]
  | @through schema inner segment next rest slot field route names record deeper ih =>
      have found := (schema.field_some_iff segment slot field).mpr names
      have holds := (Kind.record_iff field.kind inner).mpr record
      change follow root path inner next rest = .ok route at ih
      simp [follow, found, holds, ih, Except.map, Route.through]

theorem breaks_followed (root path : String) (current : Schema) (segments : List String) (e : Error)
    (breaks : Breaks root path current segments e) :
    follow root path current (segments.headD "") segments.tail = .error e := by
  induction breaks with
  | @unresolved schema segment rest unnamed =>
      have missing := (schema.field_none_iff segment).mpr unnamed
      cases rest <;> simp [follow, missing]
  | @nonRecord schema segment next rest slot field names plain =>
      have found := (schema.field_some_iff segment slot field).mpr names
      have none : field.kind.record? = none := by
        rw [Option.eq_none_iff_forall_ne_some]
        intro inner record
        exact plain inner ((Kind.record_iff field.kind inner).mp record)
      simp [follow, found, none]
  | @through schema inner segment next rest slot field e names record deeper ih =>
      have found := (schema.field_some_iff segment slot field).mpr names
      have holds := (Kind.record_iff field.kind inner).mpr record
      change follow root path inner next rest = .error e at ih
      simp [follow, found, holds, ih, Except.map]

end Path

theorem resolve_outcome (schema : Schema) (path : String) :
    (∃ route, schema.resolve path = .ok route ∧ Path.Chain schema (Path.segments path) route) ∨
      ∃ e, schema.resolve path = .error e ∧ Path.Breaks schema.path path schema (Path.segments path) e := by
  rw [Path.segments_cons path]
  exact Path.follow_outcome schema.path path schema (Path.head path) _

theorem resolve_chain (schema : Schema) (path : String) (route : Path.Route) :
    schema.resolve path = .ok route ↔ Path.Chain schema (Path.segments path) route := by
  constructor
  · intro resolved
    rcases resolve_outcome schema path with ⟨other, led, chain⟩ | ⟨e, failed, _⟩
    · cases resolved.symm.trans led
      exact chain
    · cases resolved.symm.trans failed
  · rw [Path.segments_cons path]
    exact Path.chain_followed schema.path path schema _ route

theorem resolve_breaks (schema : Schema) (path : String) (e : Error) :
    schema.resolve path = .error e ↔ Path.Breaks schema.path path schema (Path.segments path) e := by
  constructor
  · intro refused
    rcases resolve_outcome schema path with ⟨route, led, _⟩ | ⟨other, failed, breaks⟩
    · cases refused.symm.trans led
    · cases refused.symm.trans failed
      exact breaks
  · rw [Path.segments_cons path]
    exact Path.breaks_followed schema.path path schema _ e

namespace Path

theorem named_alike (name segment : String) (named : Text.folded name = key segment) :
    Text.fold name.toList = Text.fold (Text.trim segment.toList) := by
  have texts := congrArg String.toList named
  rwa [Text.toList_folded, key, Text.toList_folded, Text.toList_trimmed] at texts

theorem named_trimmed (name segment : String) (named : Text.folded name = key segment) : Text.trimmed name = name := by
  have alike := named_alike name segment named
  have begins : Text.Begins name.toList := by
    rw [← Text.fold_begins, alike, Text.fold_begins]
    exact Text.trim_begins _
  have ends : Text.Ends name.toList := by
    rw [← Text.fold_ends, alike, Text.fold_ends]
    exact Text.trim_ends _
  rw [Text.trimmed, Text.trim_fixed _ begins ends, String.ofList_toList]

theorem named_undotted (name segment : String) (named : Text.folded name = key segment)
    (undotted : '.' ∉ segment.toList) : '.' ∉ name.toList := by
  intro dot
  rw [← Text.fold_dot, named_alike name segment named, Text.fold_dot] at dot
  exact undotted (Text.trim_subset _ dot)

theorem names_again (schema : Schema) (segment : String) (slot : Nat) (field : Field)
    (names : schema.Names segment slot field) : schema.Names field.name slot field := by
  have same : key field.name = key segment := by
    rw [key, named_trimmed field.name segment names.named, names.named]
  obtain ⟨place, named, first⟩ := names
  rw [← same] at named first
  exact ⟨place, named, first⟩

theorem chain_named (schema : Schema) (segments : List String) (route : Route) (chain : Chain schema segments route) :
    Chain schema route.names route := by
  induction chain with
  | last names => exact .last (names_again _ _ _ _ names)
  | through names record deeper ih =>
      have again := names_again _ _ _ _ names
      cases deeper with
      | last _ => exact .through again record ih
      | through _ _ _ => exact .through again record ih

theorem chain_undotted (schema : Schema) (segments : List String) (route : Route) (chain : Chain schema segments route)
    (undotted : ∀ segment ∈ segments, '.' ∉ segment.toList) : ∀ name ∈ route.names, '.' ∉ name.toList := by
  induction chain with
  | @last schema segment slot field names =>
      intro name member
      obtain rfl := List.mem_singleton.mp member
      exact named_undotted field.name segment names.named (undotted segment (by simp))
  | @through schema inner segment next rest slot field route names record deeper ih =>
      intro name member
      rcases List.mem_cons.mp member with rfl | later
      · exact named_undotted field.name segment names.named (undotted segment (by simp))
      · exact ih (fun other inRest => undotted other (List.mem_cons_of_mem _ inRest)) name later

theorem chain_somewhere (schema : Schema) (segments : List String) (route : Route)
    (chain : Chain schema segments route) : route.names ≠ [] := by
  cases chain <;> simp

theorem segments_undotted (path : String) : ∀ segment ∈ segments path, '.' ∉ segment.toList := by
  intro segment member
  obtain ⟨part, inside, rfl⟩ := List.mem_map.mp member
  rw [String.toList_ofList]
  exact Token.split_on_free '.' path.toList part inside

theorem segments_joined (names : List String) (somewhere : names ≠ []) (undotted : ∀ name ∈ names, '.' ∉ name.toList) :
    segments (".".intercalate names) = names := by
  have parts : ∀ part ∈ names.map String.toList, '.' ∉ part := by
    intro part member
    obtain ⟨name, inside, rfl⟩ := List.mem_map.mp member
    exact undotted name inside
  have split := List.splitOn_intercalate '.' parts (by simpa using somewhere)
  rw [segments, String.toList_intercalate]
  change (List.splitOn '.' (['.'].intercalate (names.map String.toList))).map String.ofList = names
  have back : String.ofList ∘ String.toList = id := funext fun _ => String.ofList_toList
  rw [split, List.map_map, back, List.map_id]

theorem resolve_names (schema : Schema) (path : String) (route : Route) (resolved : schema.resolve path = .ok route) :
    schema.resolve route.ref.path = .ok route := by
  have chain := (resolve_chain schema path route).mp resolved
  have undotted := chain_undotted schema _ route chain (segments_undotted path)
  have names : segments route.ref.path = route.names :=
    segments_joined route.names (chain_somewhere schema _ route chain) undotted
  rw [resolve_chain, names]
  exact chain_named schema _ route chain

end Path

-- A path resolves just if its segments lead along a chain of fields, and to what the chain says; else it is refused
-- for the step at which it breaks. The declared names, joined by dots, are a path to the same place.
theorem resolve_chains (schema : Schema) (path : String) :
    (∀ route, schema.resolve path = .ok route ↔ Path.Chain schema (Path.segments path) route) ∧
    (∀ e, schema.resolve path = .error e ↔ Path.Breaks schema.path path schema (Path.segments path) e) ∧
    ∀ route, schema.resolve path = .ok route →
      route.ref = ⟨".".intercalate route.names, route.slots⟩ ∧ schema.resolve route.ref.path = .ok route := by
  refine ⟨resolve_chain schema path, resolve_breaks schema path, ?_⟩
  intro route resolved
  exact ⟨rfl, Path.resolve_names schema path route resolved⟩

theorem resolve_chains_of_people :
    let schema : Schema := ⟨"people", "Person",
      [⟨"Name", .text⟩,
        ⟨"Home", .nullable (.record ⟨"homes", "Home", [⟨"Åbo", .text⟩, ⟨"åBO", .int⟩, ⟨"", .list .text⟩]⟩)⟩]⟩
    let route : Path.Route := ⟨["Home", "Åbo"], [1, 0], .text⟩
    schema.resolve "HOME. åbo " = .ok route ∧ route.ref.path = "Home.Åbo" ∧ schema.resolve "Home.Åbo" = .ok route ∧
      Path.Breaks "people" "home. .x" schema ["home", " ", "x"] (.nonRecordSegment "people" "home. .x" "") := by
  intro schema route
  have resolved : schema.resolve "HOME. åbo " = .ok route := rfl
  have again := (resolve_chains schema "HOME. åbo ").2.2 route resolved
  have failed : schema.resolve "home. .x" = .error (.nonRecordSegment "people" "home. .x" "") := rfl
  exact ⟨resolved, rfl, again.2, ((resolve_chains schema "home. .x").2.1 _).mp failed⟩

end TokenFilter
