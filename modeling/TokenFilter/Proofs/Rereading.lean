import TokenFilter.Proofs.Alphabets
import TokenFilter.Proofs.MomentTexts
import TokenFilter.Proofs.NumberTexts

set_option autoImplicit false

namespace TokenFilter

def Kind.isRewritten (kind : Kind) : Bool :=
  match kind.nonNull with
  | .bool | .date | .dateTime | .dateTimeOffset | .decimal | .guid | .int | .uint => true
  | _ => false

theorem date_reread (d : Calendar.Date) : Literal.date d.chars = .ok (.date d) := by
  rw [Literal.date, Text.trim_solid _ (Calendar.date_solid d), Calendar.read_date_chars]
  rfl

theorem date_time_reread (d : Calendar.DateTime) (written : d.time.isWritten = true) :
    Literal.dateTime d.chars = .ok (.dateTime d) := by
  rw [Literal.dateTime, Text.trim_solid _ (Calendar.date_time_solid d), Calendar.read_date_time_chars d written]
  rfl

theorem date_time_offset_reread (d : Calendar.OffsetDateTime) (written : d.isWritten = true) :
    Literal.dateTimeOffset d.chars = .ok (.dateTimeOffset d) := by
  rw [Literal.dateTimeOffset, Text.trim_solid _ (Calendar.offset_date_time_solid d),
    Calendar.read_offset_date_time_chars d written]
  rfl

theorem guid_reread (g : Guid) : Literal.guid g.chars = .ok (.guid g) := by
  have solid : ∀ c ∈ g.chars, Text.isBlank c = false := by
    intro c member
    obtain ⟨above, below⟩ := g.chars_visible c member
    exact Text.visible_solid c above below
  rw [Literal.guid, Text.trim_solid _ solid, g.read_chars]
  rfl

theorem int_reread (n : Int64) : Literal.int (Integer.chars n.toInt) = .ok (.int n) := by
  have read := Integer.read_int64 n
  rw [Literal.int, Text.number_bare _ (Integer.int64_chars _ n read), read]
  rfl

theorem uint_reread (n : UInt64) : Literal.uint (Integer.naturalChars n.toNat) = .ok (.uint n) := by
  have read := Integer.read_uint64 n
  rw [Literal.uint, Text.number_bare _ (Integer.uint64_chars _ n read), read]
  rfl

theorem decimal_reread (d : Decimal) : Literal.decimal d.chars = .ok (.decimal d.unsignedZero) := by
  have read := d.read_decimal_chars
  rw [Literal.decimal, Text.number_bare _ (Decimal.read_chars _ _ read), read]
  rfl

theorem bool_reread (b : Bool) : Literal.bool (Value.boolText b).toList = .ok (.bool b) := by
  cases b <;> rfl

def Value.reread : Value → Value
  | .decimal d => .decimal d.unsignedZero
  | value => value

theorem scalar_reread (kind : Kind) (value : Value) (rewritten : kind.isRewritten = true)
    (scalar : ScalarOf kind value) (written : value.isWritten = true) : kind.readLiteral value.render.toList = .ok value.reread := by
  cases scalar with
  | bool b => exact bool_reread b
  | date d => exact String.toList_ofList ▸ date_reread d
  | dateTime d => exact String.toList_ofList ▸ date_time_reread d written
  | dateTimeOffset d => exact String.toList_ofList ▸ date_time_offset_reread d written
  | decimal d => exact String.toList_ofList ▸ decimal_reread d
  | guid g => exact String.toList_ofList ▸ guid_reread g
  | int n => exact String.toList_ofList ▸ int_reread n
  | uint n => exact String.toList_ofList ▸ uint_reread n
  | float x => cases rewritten
  | text s => cases rewritten
  | enumeration e variant => cases rewritten
  | keyed k member key => cases rewritten

theorem Calendar.same_self (d : Calendar.OffsetDateTime) : d.same d = true := by
  have equal : d.compare d = .eq := Int.compare_eq_eq.mpr rfl
  rw [Calendar.OffsetDateTime.same, equal]
  rfl

theorem scalar_same (kind : Kind) (value : Value) (rewritten : kind.isRewritten = true)
    (scalar : ScalarOf kind value) : value.same value.reread = true := by
  cases scalar with
  | dateTimeOffset d =>
      rw [Value.reread, Value.same]
      · exact Calendar.same_self d
      · intro e other
        cases other
  | decimal d =>
      rw [Value.reread, Value.same]
      exact d.same_unsigned
  | float x => cases rewritten
  | text s => cases rewritten
  | enumeration e variant => cases rewritten
  | keyed k member key => cases rewritten
  | _ => simp [Value.reread, Value.same]

theorem read_reread (kind : Kind) (cs : List Char) (value : Value) (read : kind.readLiteral cs = .ok value)
    (other : value ≠ .decimal (Decimal.lastZero true)) : value.reread = value := by
  cases value with
  | decimal d =>
      have scalar := read_literal_scalar kind cs _ read
      rw [← read_non_null] at read
      generalize kind.nonNull = inner at scalar read
      cases scalar
      obtain ⟨_, digits, same⟩ := (read_with_iff _ _ _ _).mp read
      cases same
      rcases d.read_signed _ digits with significant | zero
      · rw [Value.reread, d.unsigned_significant significant]
      · exact absurd (congrArg Value.decimal zero) other
  | _ => rfl

-- The text of a value that is read from a literal is a literal of an equal value, and of the value itself unless that
-- is the zero that keeps a sign when a power of ten takes its last digit away.
theorem literals_reread (kind : Kind) (cs : List Char) (value : Value) (rewritten : kind.isRewritten = true)
    (read : kind.readLiteral cs = .ok value) :
    ∃ again, kind.readLiteral value.render.toList = .ok again ∧ value.same again = true ∧
      (value ≠ .decimal (Decimal.lastZero true) → again = value ∧ again.render = value.render) ∧
      (value = .decimal (Decimal.lastZero true) → again = .decimal (Decimal.lastZero false)) := by
  have scalar := read_literal_scalar kind cs value read
  have inner : kind.nonNull.isRewritten = true := by
    rw [Kind.isRewritten, kind.nonNull_idem]
    exact rewritten
  have reread := scalar_reread _ value inner scalar (literal_written kind cs value read)
  rw [read_non_null] at reread
  refine ⟨value.reread, reread, scalar_same _ value inner scalar, ?_, ?_⟩
  · intro other
    have same := read_reread kind cs value read other
    exact ⟨same, congrArg Value.render same⟩
  · rintro rfl
    rfl

theorem literals_reread_of_moments :
    let kind : Kind := .nullable .dateTime
    let moment : Calendar.DateTime :=
      ⟨⟨12345, 6, 30, by decide, by decide, by decide, by decide, by decide, by decide⟩,
        ⟨86399, 1500000000, by decide, by decide⟩⟩
    kind.isRewritten = true ∧ kind.readLiteral " +12345-6-30 23:59:60.5".toList = .ok (.dateTime moment) ∧
      (Value.dateTime moment).render = "+12345-06-30T23:59:60.500" ∧
      kind.readLiteral (Value.dateTime moment).render.toList = .ok (.dateTime moment) := by
  intro kind moment
  have rewritten : kind.isRewritten = true := rfl
  have read : kind.readLiteral " +12345-6-30 23:59:60.5".toList = .ok (.dateTime moment) := rfl
  obtain ⟨again, reread, _, same, _⟩ := literals_reread kind _ _ rewritten read
  have other : Value.dateTime moment ≠ .decimal (Decimal.lastZero true) := by
    intro decimal
    cases decimal
  rw [(same other).1] at reread
  exact ⟨rewritten, read, by decide +kernel, reread⟩

-- The sign is in the text, and not read.
theorem signed_zero_not_reread :
    let zero : Value := .decimal (Decimal.lastZero true)
    let again : Value := .decimal (Decimal.lastZero false)
    Kind.decimal.readLiteral "-0.1e-28".toList = .ok zero ∧ Kind.decimal.readLiteral zero.render.toList = .ok again ∧
      zero.render = "-0.0000000000000000000000000000" ∧ again.render = "0.0000000000000000000000000000" ∧
      again.render ≠ zero.render := by
  intro zero again
  exact ⟨rfl, scalar_reread .decimal zero rfl (.decimal _) rfl, rfl, rfl, by decide +kernel⟩

end TokenFilter
