import TokenFilter.Text.Case
import TokenFilter.Text.Blank
import TokenFilter.Text.Quoted
import TokenFilter.Integer

set_option autoImplicit false

namespace TokenFilter

structure Enumeration where
  path : String
  variants : List String
deriving DecidableEq, Repr

inductive Key where
  | int (n : Int64)
  | text (s : String)
deriving DecidableEq

structure Member where
  name : String
  key : Key
deriving DecidableEq

structure KeyedOf (κ : Type) where
  path : String
  keyKind : κ
  members : List Member

structure FieldOf (κ : Type) where
  name : String
  kind : κ

structure SchemaOf (κ : Type) where
  path : String
  name : String
  fields : List (FieldOf κ)

inductive Kind where
  | bool
  | date
  | dateTime
  | dateTimeOffset
  | decimal
  | float
  | guid
  | int
  | text
  | uint
  | enumeration (e : Enumeration)
  | keyed (k : KeyedOf Kind)
  | nullable (inner : Kind)
  | list (item : Kind)
  | record (schema : SchemaOf Kind)
  | unsupported

abbrev Keyed := KeyedOf Kind

abbrev Field := FieldOf Kind

abbrev Schema := SchemaOf Kind

def Enumeration.find? (e : Enumeration) (name : String) : Option String :=
  e.variants.find? (· == name)

def KeyedOf.named? (k : Keyed) (name : String) : Option Member :=
  k.members.find? (·.name == name)

-- Of several members with one key the last counts. The path is taken as the identity of the enumeration, so that its
-- members may be kept by path.
def KeyedOf.keyed? (k : Keyed) (key : Key) : Option Member :=
  k.members.reverse.find? (·.key == key)

namespace Kind

def nonNull : Kind → Kind
  | .nullable inner => inner.nonNull
  | kind => kind

def isNullable : Kind → Bool
  | .nullable _ => true
  | _ => false

def isText (kind : Kind) : Bool :=
  match kind.nonNull with
  | .text => true
  | _ => false

def isTemporal (kind : Kind) : Bool :=
  match kind.nonNull with
  | .date | .dateTime | .dateTimeOffset => true
  | _ => false

def isNumeric (kind : Kind) : Bool :=
  match kind.nonNull with
  | .decimal | .float | .int | .uint => true
  | _ => false

def isRanged (kind : Kind) : Bool := kind.isTemporal || kind.isNumeric

def item? (kind : Kind) : Option Kind :=
  match kind.nonNull with
  | .list item => some item
  | _ => none

def record? (kind : Kind) : Option Schema :=
  match kind.nonNull with
  | .record schema => some schema
  | _ => none

def describe : Kind → String
  | .bool => "Bool"
  | .date => "Date"
  | .dateTime => "DateTime"
  | .dateTimeOffset => "DateTimeOffset"
  | .decimal => "Decimal"
  | .float => "Float64"
  | .guid => "Guid"
  | .int => "Int"
  | .text => "Text"
  | .uint => "Uint"
  | .enumeration e => "Enum<" ++ e.path ++ ">"
  | .keyed k => "Closed<" ++ k.path ++ ">"
  | .nullable inner => "Nullable<" ++ inner.describe ++ ">"
  | .list item => "List<" ++ item.describe ++ ">"
  | .record schema => "Record<" ++ schema.path ++ ">"
  | .unsupported => "Unsupported"

theorem nonNull_idem (kind : Kind) : kind.nonNull.nonNull = kind.nonNull := by
  fun_induction nonNull kind with
  | case1 inner ih => exact ih
  | case2 kind h =>
    cases kind <;> simp_all [nonNull]

end Kind

namespace SchemaOf

def slotNamed? (schema : Schema) (name : String) : Option Nat :=
  schema.fields.findIdx? fun field => Text.folded field.name == Text.folded name

-- The path of the schema is taken as its identity, so that a slot which was kept by path and segment is the one that a
-- search of the schema finds.
def slot? (schema : Schema) (segment : String) : Option Nat :=
  schema.slotNamed? (Text.folded (Text.trimmed segment))

def field? (schema : Schema) (segment : String) : Option (Nat × Field) :=
  (schema.slot? segment).bind fun slot => schema.fields[slot]?.map fun field => (slot, field)

def describe (schema : Schema) : String :=
  "EntityModel \x7b path: " ++ Text.quoted schema.path ++
    ", entity_name: " ++ Text.quoted schema.name ++
    ", fields: [" ++ ", ".intercalate (schema.fields.map (Text.quoted ·.name)) ++ "] \x7d"

end SchemaOf

end TokenFilter
