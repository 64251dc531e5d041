import TokenFilter.Event
import TokenFilter.Logged
import TokenFilter.Options
import TokenFilter.Path
import TokenFilter.Query

set_option autoImplicit false

namespace TokenFilter

def Policy.ofKind (kind : Kind) : Policy :=
  match kind.nonNull with
  | .dateTime => .dateTruncate
  | .decimal | .float | .int | .uint => .numericWiden
  | _ => .strict

namespace Kind

def guard (kind : Kind) (target : Target) (leaf : Predicate) : Predicate :=
  if kind.isNullable then .guarded target leaf else leaf

def readOrDrop (kind : Kind) (cs : List Char) : Except Dropped Value :=
  (kind.readLiteral cs).mapError (.unreadable kind (String.ofList cs))

def literalLeaf (kind : Kind) (target : Target) (value : Value) : Predicate :=
  if kind.isText then .contains target value
  else .compare target .eq value (Policy.ofKind kind)

-- Between two bounds, or on the one side of the one bound there is. A bound that cannot be read
-- drops the whole range.
def rangeLeaf (kind : Kind) (target : Target) :
    Option (List Char) → Option (List Char) → Except Dropped Predicate
  | none, none => .error .boundless
  | some lower, none =>
    (kind.readOrDrop lower).map fun value => .compare target .gte value (Policy.ofKind kind)
  | none, some upper =>
    (kind.readOrDrop upper).map fun value => .compare target .lte value (Policy.ofKind kind)
  | some lower, some upper =>
    (kind.readOrDrop lower).bind fun low =>
      (kind.readOrDrop upper).map fun high =>
        .range target (some low) (some high) (Policy.ofKind kind)

end Kind

def Token.predicate (kind : Kind) (target : Target) : Token → Except Dropped Predicate
  | .not inner => (inner.predicate kind target).map .not
  | .range lower upper => (kind.rangeLeaf target lower upper).map (kind.guard target)
  | .function fn argument =>
    .ok (kind.guard target (.function target fn (.text (String.ofList argument))))
  | .literal cs =>
    (kind.readOrDrop cs).map fun value => kind.guard target (kind.literalLeaf target value)

abbrev Compiling := Logged Event Error

def compileToken (field : String) (kind : Kind) (target : Target) (text : String) :
    Compiling (Option Predicate) := do
  let token ← Logged.ofExcept (Token.read (.ofKind kind) text)
  match token.predicate kind target with
  | .ok predicate => return some predicate
  | .error dropped =>
    Logged.log [dropped.event, .tokenDropped field text]
    return none

def compileTokens (field : String) (kind : Kind) (target : Target) (tokens : List String) :
    Compiling (Option Predicate) := do
  let built ← tokens.mapM (compileToken field kind target)
  return Predicate.foldOr built.reduceOption

namespace SchemaOf

def headField? (schema : Schema) (path : String) : Option Field :=
  (schema.field? (Path.head path)).map (·.2)

def compileEntry (schema : Schema) (field : Field) (entry : Entry) :
    Compiling (Option Predicate) := do
  let route ← Logged.ofExcept (schema.resolve entry.path)
  let target := Target.field route.ref
  let built ← match route.kind.item? with
    | some item =>
      (·.map (Predicate.exists target)) <$> compileTokens field.name item .item entry.tokens
    | none => compileTokens field.name route.kind target entry.tokens
  if built.isNone then
    Logged.log [.emptyField schema.path entry.path]
  return built

def knownEntries (schema : Schema) (query : Query) : List (Field × Entry) :=
  query.filterMap fun entry => (schema.headField? entry.path).map fun field => (field, entry)

def unknownEvents (schema : Schema) (query : Query) : List Event :=
  (query.filter fun entry => (schema.headField? entry.path).isNone).map fun entry =>
    .unknownField schema.path entry.path

end SchemaOf

def Combination.fold : Combination → List Predicate → Option Predicate
  | .and => Predicate.foldAnd
  | .or => Predicate.foldOr

def compile (schema : Schema) (query : Query) (combination : Combination) :
    Compiling (Option Predicate) := do
  Logged.log (schema.unknownEvents query)
  let built ← (schema.knownEntries query).mapM fun (field, entry) =>
    schema.compileEntry field entry
  match combination.fold built.reduceOption with
  | some predicate =>
    Logged.log [.compiled schema.path predicate]
    return some predicate
  | none => return none

structure Compiler where
  schema : Schema
  options : Options := {}

def Compiler.compile (compiler : Compiler) (query : Query) : Compiling (Option Predicate) :=
  TokenFilter.compile compiler.schema query compiler.options.combination

end TokenFilter
