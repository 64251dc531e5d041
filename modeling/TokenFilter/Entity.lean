import TokenFilter.Predicate.Evaluation
import TokenFilter.Binary.Reader

set_option autoImplicit false

namespace TokenFilter

class ToValue (α : Type) where
  toValue : α → Value

export ToValue (toValue)

section Instances

instance : ToValue Bool := ⟨.bool⟩
instance : ToValue Int8 := ⟨fun n => .int n.toInt64⟩
instance : ToValue Int16 := ⟨fun n => .int n.toInt64⟩
instance : ToValue Int32 := ⟨fun n => .int n.toInt64⟩
instance : ToValue Int64 := ⟨.int⟩
instance : ToValue UInt8 := ⟨fun n => .uint n.toUInt64⟩
instance : ToValue UInt16 := ⟨fun n => .uint n.toUInt64⟩
instance : ToValue UInt32 := ⟨fun n => .uint n.toUInt64⟩
instance : ToValue UInt64 := ⟨.uint⟩
instance : ToValue Binary64 := ⟨.float⟩
instance : ToValue Decimal := ⟨.decimal⟩
instance : ToValue Calendar.Date := ⟨.date⟩
instance : ToValue Calendar.DateTime := ⟨.dateTime⟩
instance : ToValue Calendar.OffsetDateTime := ⟨.dateTimeOffset⟩
instance : ToValue Guid := ⟨.guid⟩
instance : ToValue String := ⟨.text⟩

instance {α : Type} [ToValue α] : ToValue (Option α) := ⟨fun
  | none => .null
  | some a => toValue a⟩

instance {α : Type} [ToValue α] : ToValue (List α) := ⟨fun items => .list (items.map toValue)⟩

end Instances

-- A number of the narrow format stands for the decimal that it prints as.
def Binary32.widen (x : Binary32) : Binary64 :=
  match Binary.read (Binary.chars x) with
  | .ok wide => wide
  | .error _ => .nan

instance : ToValue Binary32 := ⟨fun x => .float x.widen⟩

structure Column (α : Type) where
  name : String
  kind : Kind
  read : α → Value

def Column.of {α β : Type} [ToValue β] (name : String) (kind : Kind) (get : α → β) : Column α :=
  ⟨name, kind, fun a => toValue (get a)⟩

structure Declaration (α : Type) where
  path : String
  name : String
  columns : List (Column α)
  names_nodup : (columns.map Column.name).Nodup

namespace Declaration

variable {α : Type}

def schema (declaration : Declaration α) : Schema :=
  ⟨declaration.path, declaration.name, declaration.columns.map fun column =>
    ⟨column.name, column.kind⟩⟩

def valueAt (declaration : Declaration α) (a : α) (slot : Nat) : Option Value :=
  (declaration.columns[slot]?).bind fun declared =>
    (declaration.columns.find? fun column => column.name == declared.name).map fun column =>
      column.read a

def entity (declaration : Declaration α) (a : α) : Entity := declaration.valueAt a

def record (declaration : Declaration α) (a : α) : Value :=
  .record (declaration.columns.map fun column => column.read a)

end Declaration

end TokenFilter
