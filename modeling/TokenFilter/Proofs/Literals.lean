import TokenFilter.Literal
import TokenFilter.Proofs.Clocks

set_option autoImplicit false

namespace TokenFilter

inductive ScalarOf : Kind → Value → Prop where
  | bool (b : Bool) : ScalarOf .bool (.bool b)
  | date (d : Calendar.Date) : ScalarOf .date (.date d)
  | dateTime (d : Calendar.DateTime) : ScalarOf .dateTime (.dateTime d)
  | dateTimeOffset (d : Calendar.OffsetDateTime) : ScalarOf .dateTimeOffset (.dateTimeOffset d)
  | decimal (d : Decimal) : ScalarOf .decimal (.decimal d)
  | float (x : Binary64) : ScalarOf .float (.float x)
  | guid (g : Guid) : ScalarOf .guid (.guid g)
  | int (n : Int64) : ScalarOf .int (.int n)
  | text (s : String) : ScalarOf .text (.text s)
  | uint (n : UInt64) : ScalarOf .uint (.uint n)
  | enumeration (e : Enumeration) (variant : String) :
      ScalarOf (.enumeration e) (.enumeration e.path variant)
  | keyed (k : Keyed) (member : String) (key : Key) : ScalarOf (.keyed k) (.keyed k.path member key)

mutual
-- The text of every time in the value gives that time.
def Value.isWritten : Value → Bool
  | .dateTime d => d.time.isWritten
  | .dateTimeOffset d => d.isWritten
  | .list items => allWritten items
  | .record fields => allWritten fields
  | _ => true
def Value.allWritten : List Value → Bool
  | [] => true
  | value :: rest => value.isWritten && allWritten rest
end

theorem read_with {α ε : Type} (x : Except ε α) (wrap : α → Value) (fault : ε → LiteralFault) (value : Value)
    (read : (x.map wrap).mapError fault = .ok value) : ∃ a, value = wrap a := by
  cases x with
  | error e => cases read
  | ok a =>
      cases read
      exact ⟨a, rfl⟩

theorem read_with_iff {α ε : Type} (x : Except ε α) (wrap : α → Value) (fault : ε → LiteralFault) (value : Value) :
    (x.map wrap).mapError fault = .ok value ↔ ∃ a, x = .ok a ∧ wrap a = value := by
  constructor
  · intro read
    cases x with
    | error e => cases read
    | ok a =>
        cases read
        exact ⟨a, rfl, rfl⟩
  · rintro ⟨a, rfl, rfl⟩
    rfl

theorem read_non_null (kind : Kind) (cs : List Char) : kind.nonNull.readLiteral cs = kind.readLiteral cs := by
  induction kind using Kind.nonNull.induct with
  | case1 inner ih => exact ih
  | case2 kind plain =>
      cases kind with
      | nullable inner => exact absurd rfl (plain inner)
      | _ => rfl

theorem read_bool (cs : List Char) (value : Value) (read : Literal.bool cs = .ok value) : ∃ b, value = .bool b := by
  unfold Literal.bool at read
  cases word : Literal.readBool? (Text.trim cs) with
  | none => simp [word] at read
  | some b =>
      simp only [word, Except.ok.injEq] at read
      exact ⟨b, read.symm⟩

theorem read_enumeration (e : Enumeration) (cs : List Char) (value : Value)
    (read : Literal.enumeration e cs = .ok value) : ∃ variant ∈ e.variants, value = .enumeration e.path variant := by
  unfold Literal.enumeration at read
  cases found : e.find? (String.ofList cs) with
  | none => simp [found] at read
  | some variant =>
      simp only [found, Except.ok.injEq] at read
      exact ⟨variant, List.mem_of_find?_eq_some found, read.symm⟩

theorem member_keyed (k : Keyed) (token : String) (selected value : Value)
    (read : Literal.member k token selected = .ok value) : ∃ member key, value = .keyed k.path member key := by
  unfold Literal.member at read
  cases selector : Literal.key? selected with
  | none => simp [selector] at read
  | some key =>
      cases found : k.keyed? key with
      | none => simp [selector, found] at read
      | some member =>
          simp only [selector, found, Except.ok.injEq] at read
          exact ⟨member.name, member.key, read.symm⟩

theorem read_literal_scalar (kind : Kind) (cs : List Char) (value : Value) (read : kind.readLiteral cs = .ok value) :
    ScalarOf kind.nonNull value := by
  fun_induction Kind.nonNull kind with
  | case1 inner ih => exact ih read
  | case2 kind plain =>
      cases kind with
      | bool =>
          obtain ⟨b, rfl⟩ := read_bool cs value read
          exact .bool b
      | date =>
          obtain ⟨d, rfl⟩ := read_with _ _ _ value read
          exact .date d
      | dateTime =>
          obtain ⟨d, rfl⟩ := read_with _ _ _ value read
          exact .dateTime d
      | dateTimeOffset =>
          obtain ⟨d, rfl⟩ := read_with _ _ _ value read
          exact .dateTimeOffset d
      | decimal =>
          obtain ⟨d, rfl⟩ := read_with _ _ _ value read
          exact .decimal d
      | float =>
          obtain ⟨x, rfl⟩ := read_with _ _ _ value read
          exact .float x
      | guid =>
          obtain ⟨g, rfl⟩ := read_with _ _ _ value read
          exact .guid g
      | int =>
          obtain ⟨n, rfl⟩ := read_with _ _ _ value read
          exact .int n
      | uint =>
          obtain ⟨n, rfl⟩ := read_with _ _ _ value read
          exact .uint n
      | text =>
          cases read
          exact .text _
      | enumeration e =>
          obtain ⟨variant, _, rfl⟩ := read_enumeration e cs value read
          exact .enumeration e variant
      | keyed k =>
          unfold Kind.readLiteral at read
          cases selected : k.keyKind.readLiteral cs with
          | error fault => simp [selected, Except.bind] at read
          | ok key =>
              simp only [selected, Except.bind] at read
              obtain ⟨member, key, rfl⟩ := member_keyed _ _ _ value read
              exact .keyed k member key
      | nullable inner => exact absurd rfl (plain inner)
      | list item => cases read
      | record schema => cases read
      | unsupported => cases read

theorem literal_written (kind : Kind) (cs : List Char) (value : Value) (read : kind.readLiteral cs = .ok value) :
    value.isWritten = true := by
  have scalar := read_literal_scalar kind cs value read
  rw [← read_non_null] at read
  generalize kind.nonNull = inner at read scalar
  cases scalar with
  | dateTime d =>
      obtain ⟨_, found, same⟩ := (read_with_iff _ _ _ _).mp read
      cases same
      exact Calendar.date_time_written _ d found
  | dateTimeOffset d =>
      obtain ⟨_, found, same⟩ := (read_with_iff _ _ _ _).mp read
      cases same
      exact Calendar.offset_date_time_written _ d found
  | _ => rfl

theorem text_non_null (kind : Kind) (textual : kind.isText = true) : kind.nonNull = .text := by
  unfold Kind.isText at textual
  split at textual
  · rename_i plain
    exact plain
  · cases textual

theorem read_literal_text (kind : Kind) (cs : List Char) (value : Value) (textual : kind.isText = true)
    (read : kind.readLiteral cs = .ok value) : ∃ s, value = .text s := by
  have scalar := read_literal_scalar kind cs value read
  rw [text_non_null kind textual] at scalar
  cases scalar
  exact ⟨_, rfl⟩

end TokenFilter
