import TokenFilter.Error
import TokenFilter.Kind
import TokenFilter.Predicate.Basic

set_option autoImplicit false

namespace TokenFilter

namespace Path

def segments (path : String) : List String := (path.toList.splitOn '.').map String.ofList

def head (path : String) : String := (segments path).headD ""

structure Route where
  names : List String
  slots : List Nat
  kind : Kind

def Route.start (slot : Nat) (field : Field) : Route := ⟨[field.name], [slot], field.kind⟩

def Route.through (slot : Nat) (field : Field) (route : Route) : Route :=
  ⟨field.name :: route.names, slot :: route.slots, route.kind⟩

def Route.ref (route : Route) : FieldRef := ⟨".".intercalate route.names, route.slots⟩

-- Follows `segment` and then `rest` from `current`. The faults name the root and the whole path.
def follow (root path : String) (current : Schema) (segment : String) :
    List String → Except Error Route
  | [] =>
    match current.field? segment with
    | none => .error (.unresolvedPath root path segment)
    | some (slot, field) => .ok (.start slot field)
  | next :: rest =>
    match current.field? segment with
    | none => .error (.unresolvedPath root path segment)
    | some (slot, field) =>
      match field.kind.record? with
      | none => .error (.nonRecordSegment root path field.name)
      | some inner => (follow root path inner next rest).map (.through slot field)

end Path

def SchemaOf.resolve (schema : Schema) (path : String) : Except Error Path.Route :=
  Path.follow schema.path path schema (Path.head path) (Path.segments path).tail

end TokenFilter
