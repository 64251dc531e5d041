import TokenFilter.Path
import TokenFilter.Proofs.Folding
import TokenFilter.Proofs.Outcome

set_option autoImplicit false

namespace TokenFilter

namespace SchemaOf

def Knows (schema : Schema) (path : String) : Prop :=
  ∃ field ∈ schema.fields, Text.folded field.name = Text.folded (Text.trimmed (Path.head path))

def kindAt? (schema : Schema) : List Nat → Option Kind
  | [] => none
  | [slot] => schema.fields[slot]?.map (·.kind)
  | slot :: next :: rest =>
    schema.fields[slot]?.bind fun field =>
      field.kind.record?.bind fun inner => inner.kindAt? (next :: rest)

theorem slot_is_some_iff (schema : Schema) (segment : String) :
    (schema.slot? segment).isSome = true ↔
      ∃ field ∈ schema.fields, Text.folded field.name = Text.folded (Text.trimmed segment) := by
  simp [slot?, slotNamed?, Text.folded_folded]

theorem slot_in_fields (schema : Schema) (segment : String) (slot : Nat)
    (named : schema.slot? segment = some slot) : slot < schema.fields.length := by
  obtain ⟨bound, _⟩ := List.findIdx?_eq_some_iff_getElem.mp named
  exact bound

theorem field_at_slot (schema : Schema) (segment : String) (slot : Nat) (field : Field)
    (found : schema.field? segment = some (slot, field)) : schema.fields[slot]? = some field := by
  obtain ⟨slot', named, read⟩ := Option.bind_eq_some_iff.mp found
  obtain ⟨field', present, eq⟩ := Option.map_eq_some_iff.mp read
  obtain ⟨rfl, rfl⟩ := Prod.mk.inj eq
  exact present

theorem field_is_some_iff (schema : Schema) (segment : String) :
    (schema.field? segment).isSome = true ↔
      ∃ field ∈ schema.fields, Text.folded field.name = Text.folded (Text.trimmed segment) := by
  rw [← slot_is_some_iff, field?]
  cases named : schema.slot? segment with
  | none => simp
  | some slot => simp [slot_in_fields schema segment slot named]

theorem knows_iff (schema : Schema) (path : String) :
    schema.Knows path ↔ (schema.field? (Path.head path)).isSome = true :=
  (field_is_some_iff schema (Path.head path)).symm

end SchemaOf

namespace Path

def reach? (current : Schema) : List String → Option Schema
  | [] => some current
  | segment :: rest =>
    (current.field? segment).bind fun found => found.2.kind.record?.bind fun inner => reach? inner rest

theorem segments_cons (path : String) : segments path = head path :: (segments path).tail := by
  have someSegment : segments path ≠ [] := by
    simp [segments, List.splitOn_ne_nil]
  cases parts : segments path with
  | nil => exact absurd parts someSegment
  | cons first rest => simp [head, parts]

def Unresolved (current : Schema) (segments : List String) (segment : String) : Prop :=
  ∃ before after inner, segments = before ++ segment :: after ∧ reach? current before = some inner ∧
    inner.field? segment = none

theorem unresolved_cons (current inner : Schema) (segment : String) (slot : Nat) (field : Field)
    (rest : List String) (failing : String) (found : current.field? segment = some (slot, field))
    (record : field.kind.record? = some inner) (deeper : Unresolved inner rest failing) :
    Unresolved current (segment :: rest) failing := by
  obtain ⟨before, after, last, split, reached, missing⟩ := deeper
  refine ⟨segment :: before, after, last, by rw [split]; rfl, ?_, missing⟩
  simp [reach?, found, record, reached]

theorem follow_unresolved (root path : String) (current : Schema) (segment : String) (rest : List String)
    (r p s : String) (failed : follow root path current segment rest = .error (.unresolvedPath r p s)) :
    r = root ∧ p = path ∧ Unresolved current (segment :: rest) s := by
  fun_induction follow root path current segment rest with
  | case1 current segment missing =>
      cases failed
      exact ⟨rfl, rfl, [], [], current, rfl, rfl, missing⟩
  | case2 current segment slot field found => cases failed
  | case3 current segment next rest missing =>
      cases failed
      exact ⟨rfl, rfl, [], next :: rest, current, rfl, rfl, missing⟩
  | case4 current segment next rest slot field found plain => cases failed
  | case5 current segment next rest slot field found inner record ih =>
      rw [except_map_error_iff] at failed
      obtain ⟨rootEq, pathEq, deeper⟩ := ih failed
      exact ⟨rootEq, pathEq, unresolved_cons current inner segment slot field (next :: rest) s found record deeper⟩

theorem follow_kind_at (root path : String) (current : Schema) (segment : String) (rest : List String)
    (route : Route) (followed : follow root path current segment rest = .ok route) :
    current.kindAt? route.slots = some route.kind := by
  fun_induction follow root path current segment rest generalizing route with
  | case1 current segment missing => cases followed
  | case2 current segment slot field found =>
      cases followed
      simp [Route.start, SchemaOf.kindAt?, SchemaOf.field_at_slot current segment slot field found]
  | case3 current segment next rest missing => cases followed
  | case4 current segment next rest slot field found plain => cases followed
  | case5 current segment next rest slot field found inner record ih =>
      obtain ⟨tail, reached, rfl⟩ := (except_map_ok_iff _ _ _).mp followed
      have deeper := ih tail reached
      have read := SchemaOf.field_at_slot current segment slot field found
      cases slots : tail.slots with
      | nil => simp [slots, SchemaOf.kindAt?] at deeper
      | cons first others =>
          rw [slots] at deeper
          simp [Route.through, slots, SchemaOf.kindAt?, read, record, deeper]

end Path

theorem resolve_unresolved (schema : Schema) (path r p s : String)
    (failed : schema.resolve path = .error (.unresolvedPath r p s)) :
    r = schema.path ∧ p = path ∧ Path.Unresolved schema (Path.segments path) s := by
  rw [Path.segments_cons path]
  exact Path.follow_unresolved schema.path path schema (Path.head path) _ r p s failed

theorem resolve_kind_at (schema : Schema) (path : String) (route : Path.Route)
    (resolved : schema.resolve path = .ok route) : schema.kindAt? route.slots = some route.kind :=
  Path.follow_kind_at schema.path path schema (Path.head path) _ route resolved

end TokenFilter
