import Mathlib.Data.List.Nodup
import TokenFilter.Proofs.Bounds
import TokenFilter.Proofs.NumberTexts

set_option autoImplicit false

namespace TokenFilter

def Kind.key? (kind : Kind) (cs : List Char) : Option Key :=
  match kind.nonNull with
  | .int => (Integer.readInt64 (Literal.bare cs)).toOption.map .int
  | .text => some (.text (String.ofList (Literal.bare cs)))
  | _ => none

inductive Key.Of : Kind → Key → Prop where
  | int (n : Int64) : Key.Of .int (.int n)
  | text (s : String) : Key.Of .text (.text s)

def Key.chars : Key → List Char
  | .int n => Integer.chars n.toInt
  | .text s => s.toList

def Key.quoted (key : Key) : List Char := (Token.literal key.chars).chars

-- Of the two pairs of quotes the token loses one, and the literal in it the other.
def Key.token (key : Key) : String := "\"" ++ String.ofList key.quoted ++ "\""

structure KeyedOf.Selective (k : Keyed) : Prop where
  keys : k.keyKind.nonNull = .int ∨ k.keyKind.nonNull = .text
  distinct : (k.members.map Member.key).Nodup

def KeyedOf.Selects (k : Keyed) (cs : List Char) (member : Member) : Prop :=
  member ∈ k.members ∧ k.keyKind.key? cs = some member.key

theorem key_quoted (kind : Kind) (key : Key) (typed : key.Of kind.nonNull) :
    kind.key? key.quoted = some key := by
  unfold Kind.key? Key.quoted
  generalize kind.nonNull = inner at *
  cases typed with
  | int n =>
      show (Integer.readInt64 (Literal.bare (Token.literal (Integer.chars n.toInt)).chars)).toOption.map Key.int = _
      rw [bare_quoted, Integer.read_int64]
      rfl
  | text s =>
      show some (Key.text (String.ofList (Literal.bare (Token.literal s.toList).chars))) = _
      rw [bare_quoted, String.ofList_toList]

theorem key_iff (kind : Kind) (cs : List Char) (key : Key) (keys : kind.nonNull = .int ∨ kind.nonNull = .text) :
    kind.key? cs = some key ↔ ∃ value, kind.readLiteral cs = .ok value ∧ Literal.key? value = some key := by
  unfold Kind.key?
  rw [← read_non_null]
  rcases keys with whole | textual
  · rw [whole]
    show (Integer.readInt64 (Literal.bare cs)).toOption.map Key.int = some key ↔
      ∃ value, Literal.int cs = .ok value ∧ Literal.key? value = some key
    unfold Literal.int
    cases read : Integer.readInt64 (Literal.bare cs) with
    | error fault => simp [Except.toOption, Except.map, Except.mapError]
    | ok n => simp [Except.toOption, Except.map, Except.mapError, Literal.key?]
  · rw [textual]
    simp [Kind.readLiteral, Literal.key?]

theorem keyed_iff (k : Keyed) (key : Key) (member : Member) (distinct : (k.members.map Member.key).Nodup) :
    k.keyed? key = some member ↔ member ∈ k.members ∧ member.key = key := by
  have found : ∀ other, k.keyed? key = some other → other ∈ k.members ∧ other.key = key := by
    intro other found
    exact ⟨List.mem_reverse.mp (List.mem_of_find?_eq_some found), by simpa using List.find?_some found⟩
  constructor
  · exact found member
  · rintro ⟨inside, rfl⟩
    cases other : k.keyed? member.key with
    | none =>
        have missed := List.find?_eq_none.mp other member (List.mem_reverse.mpr inside)
        simp at missed
    | some last =>
        obtain ⟨belongs, same⟩ := found last other
        rw [List.inj_on_of_nodup_map distinct belongs inside same]

theorem member_iff (k : Keyed) (token : String) (read value : Value) :
    Literal.member k token read = .ok value ↔
      ∃ key member, Literal.key? read = some key ∧ k.keyed? key = some member ∧ value = k.value member := by
  unfold Literal.member
  cases Literal.key? read with
  | none => simp
  | some key =>
      cases found : k.keyed? key with
      | none => simp [found]
      | some member => simp [found, eq_comm]

theorem keyed_literal (k : Keyed) (cs : List Char) (value : Value) :
    Kind.readLiteral cs (.keyed k) = .ok value ↔
      ∃ read, k.keyKind.readLiteral cs = .ok read ∧ Literal.member k (String.ofList cs) read = .ok value := by
  show (k.keyKind.readLiteral cs).bind (Literal.member k (String.ofList cs)) = .ok value ↔ _
  exact except_bind_ok_iff _ _ _

theorem value_inj (k : Keyed) (member other : Member) : k.value member = k.value other ↔ member = other := by
  cases member
  cases other
  simp [KeyedOf.value]

theorem value_same (k : Keyed) (member : Member) (actual : Value) :
    actual.same (k.value member) = true ↔ actual = k.value member := by
  cases actual <;> simp [KeyedOf.value, Value.same, and_assoc]

section Selection

variable (kind : Kind) (k : Keyed) (keyed : kind.nonNull = .keyed k)
include keyed

theorem keyed_plain : kind.isText = false ∧ kind.isRanged = false ∧ Policy.ofKind kind = .strict := by
  simp [Kind.isText, Kind.isRanged, Kind.isTemporal, Kind.isNumeric, Policy.ofKind, keyed]

theorem read_selected (selective : k.Selective) (cs : List Char) (value : Value) :
    kind.readLiteral cs = .ok value ↔ ∃ member, k.Selects cs member ∧ value = k.value member := by
  obtain ⟨keys, distinct⟩ := selective
  rw [← read_non_null, keyed, keyed_literal]
  constructor
  · rintro ⟨read, literal, selected⟩
    obtain ⟨key, member, given, found, same⟩ := (member_iff k _ read value).mp selected
    obtain ⟨inside, rfl⟩ := (keyed_iff k key member distinct).mp found
    exact ⟨member, ⟨inside, (key_iff _ cs _ keys).mpr ⟨read, literal, given⟩⟩, same⟩
  · rintro ⟨member, ⟨inside, given⟩, same⟩
    obtain ⟨read, literal, key⟩ := (key_iff _ cs _ keys).mp given
    have found := (keyed_iff k member.key member distinct).mpr ⟨inside, rfl⟩
    exact ⟨read, literal, (member_iff k _ read value).mpr ⟨member.key, member, key, found, same⟩⟩

theorem selected_agrees (member : Member) (actual : Value) :
    kind.Agrees actual (k.value member) ↔ actual = k.value member := by
  rw [Kind.Agrees, keyed]
  exact value_same k member actual

theorem selected_leaf (target : Target) (scope : Scope) (selected member : Member)
    (read : scope.read target = some (k.value member)) :
    (kind.guard target (.compare target .eq (k.value selected) (Policy.ofKind kind))).holdsIn scope = true ↔
      member = selected := by
  obtain ⟨_, _, strict⟩ := keyed_plain kind k keyed
  have equal : ∀ actual, Comparison.holds .eq (Policy.ofKind kind) actual (k.value selected) = true ↔
      actual = k.value selected := by
    intro actual
    rw [Comparison.holds, strict, strict_eq, value_same]
  have holds := guarded_holds kind target (.compare target .eq (k.value selected) (Policy.ofKind kind)) scope _ _
    (by rw [Predicate.holdsIn]) equal
  rw [Kind.guard, holds, read, ← value_inj k member selected]
  constructor
  · rintro ⟨actual, here, _, same⟩
    cases here
    exact same
  · intro same
    exact ⟨k.value member, rfl, fun _ => rfl, same⟩

theorem selected_token (selected : Member) (cs : List Char) (literal : kind.readLiteral cs = .ok (k.value selected))
    (actual : Option Value) :
    (Token.literal cs).Matches kind actual ↔ kind.HasSuch actual (· = k.value selected) := by
  simp [Token.Matches, literal, selected_agrees kind k keyed]

end Selection

section Route

variable (schema : Schema) (path text : String) (route : Path.Route) (cs : List Char) (k : Keyed)
  (selected : Member) (keyed : route.kind.leaf.nonNull = .keyed k)
  (resolved : schema.resolve path = .ok route) (token : Token.read (.ofKind route.kind.leaf) text = .ok (.literal cs))
  (literal : route.kind.leaf.readLiteral cs = .ok (k.value selected))
include keyed resolved token literal

theorem compile_selected (combination : Combination) :
    (compile schema [⟨path, [text]⟩] combination).result = .ok (some (route.equal (k.value selected))) := by
  obtain ⟨plain, _, _⟩ := keyed_plain _ k keyed
  refine compile_asking schema path route combination resolved text _ _ token ?_
  intro target
  exact value_predicate _ target cs _ plain literal

theorem selected_offered (entity : Entity) :
    (route.equal (k.value selected)).holds entity = true ↔ route.Offers entity (k.value selected) := by
  have survives : (Token.literal cs).survives route.kind.leaf = true := reads_literal _ cs _ literal
  obtain ⟨p, compiled, holds⟩ := single_holds schema path text route _ .and resolved token survives
  have built := compile_selected schema path text route cs k selected keyed resolved token literal .and
  cases compiled.symm.trans built
  rw [holds, such_offered route entity _ _ (selected_token _ k keyed selected cs literal)]
  constructor
  · rintro ⟨_, offered, _, rfl⟩
    exact offered
  · intro offered
    exact ⟨_, offered, fun _ => rfl, rfl⟩

end Route

-- A literal is read just if it gives the key of a member, which is then the value. Each member with a key of the kind
-- has a token, and the predicate of a token tells its member from all others.
theorem keyed_selection (kind : Kind) (k : Keyed) (keyed : kind.nonNull = .keyed k) (selective : k.Selective) :
    (∀ cs value, kind.readLiteral cs = .ok value ↔ ∃ member, k.Selects cs member ∧ value = k.value member) ∧
    (∀ cs member other, k.Selects cs member → k.Selects cs other → member = other) ∧
    (∀ member ∈ k.members, member.key.Of k.keyKind.nonNull →
      Token.read (.ofKind kind) member.key.token = .ok (.literal member.key.quoted) ∧
        k.Selects member.key.quoted member) ∧
    ∀ (schema : Schema) path route combination text cs selected, schema.resolve path = .ok route →
      route.kind.leaf = kind → Token.read (.ofKind kind) text = .ok (.literal cs) → k.Selects cs selected →
      (compile schema [⟨path, [text]⟩] combination).result = .ok (some (route.equal (k.value selected))) ∧
        (∀ entity, (route.equal (k.value selected)).holds entity = true ↔ route.Offers entity (k.value selected)) ∧
        ∀ target scope member, scope.read target = some (k.value member) →
          ((kind.guard target (.compare target .eq (k.value selected) (Policy.ofKind kind))).holdsIn scope = true ↔
            member = selected) := by
  have reads := read_selected kind k keyed selective
  refine ⟨reads, ?_, ?_, ?_⟩
  · intro cs member other here there
    obtain ⟨inside, key⟩ := here
    obtain ⟨inside', key'⟩ := there
    exact List.inj_on_of_nodup_map selective.distinct inside inside' (Option.some.inj (key.symm.trans key'))
  · intro member inside typed
    obtain ⟨_, unranged, _⟩ := keyed_plain kind k keyed
    refine ⟨?_, inside, key_quoted _ _ typed⟩
    rw [Key.token, Token.read_unranged kind _ unranged, String.toList_ofList]
  · rintro schema path route combination text cs selected resolved rfl token selects
    have literal := (reads cs (k.value selected)).mpr ⟨selected, selects, rfl⟩
    exact ⟨compile_selected schema path text route cs k selected keyed resolved token literal combination,
      selected_offered schema path text route cs k selected keyed resolved token literal,
      fun target scope member => selected_leaf _ k keyed target scope selected member⟩

theorem keyed_selection_of_plans :
    let k : Keyed := ⟨"plans", .nullable .text,
      [⟨"Free", .text " "⟩, ⟨"Paid", .text "\"p\""⟩, ⟨"Paid", .text "p"⟩, ⟨"Trial", .int 1⟩]⟩
    let kind : Kind := .nullable (.keyed k)
    let schema : Schema := ⟨"people", "Person", [⟨"Plan", kind⟩]⟩
    let route : Path.Route := ⟨["Plan"], [0], kind⟩
    let paid : Member := ⟨"Paid", .text "p"⟩
    let other : Member := ⟨"Paid", .text "\"p\""⟩
    k.Selective ∧ kind.readLiteral " \"p\"".toList = .ok (k.value paid) ∧
      Token.read (.ofKind kind) other.key.token = .ok (.literal "\"\"p\"\"".toList) ∧
      kind.readLiteral "\"\"p\"\"".toList = .ok (k.value other) ∧
      (compile schema [⟨"plan", ["equals( \"p\")"]⟩] .and).result = .ok (some (route.equal (k.value paid))) ∧
      (route.equal (k.value paid)).holds (fun slot => [k.value paid][slot]?) = true ∧
      (∀ value, kind.readLiteral "1".toList ≠ .ok value) ∧
      (∀ target scope, scope.read target = some (k.value other) →
        (kind.guard target (.compare target .eq (k.value paid) (Policy.ofKind kind))).holdsIn scope = false) := by
  intro k kind schema route paid other
  have selective : k.Selective := ⟨.inr rfl, by decide⟩
  obtain ⟨reads, _, reached, compiled⟩ := keyed_selection kind k rfl selective
  have spaced : k.Selects " \"p\"".toList paid := ⟨.tail _ (.tail _ (.head _)), rfl⟩
  have called : k.Selects "p".toList paid := ⟨.tail _ (.tail _ (.head _)), rfl⟩
  obtain ⟨token, selects⟩ := reached other (.tail _ (.head _)) (.text _)
  have resolved : schema.resolve "plan" = .ok route := by
    unfold schema route kind k
    rfl
  have equals : Token.read (.ofKind kind) "equals( \"p\")" = .ok (.literal "p".toList) := rfl
  obtain ⟨built, holds, leaf⟩ := compiled schema "plan" route .and _ _ paid resolved rfl equals called
  refine ⟨selective, (reads _ _).mpr ⟨paid, spaced, rfl⟩, token, (reads _ _).mpr ⟨other, selects, rfl⟩, built,
    (holds _).mpr rfl, ?_, ?_⟩
  · intro value read
    obtain ⟨member, ⟨inside, key⟩, _⟩ := (reads _ _).mp read
    have absent : Key.text "1" ∉ k.members.map Member.key := by decide
    exact absent (List.mem_map.mpr ⟨member, inside, (Option.some.inj key).symm⟩)
  · intro target scope here
    rw [Bool.eq_false_iff]
    intro matched
    exact absurd ((leaf target scope other here).mp matched) (by decide)

end TokenFilter
