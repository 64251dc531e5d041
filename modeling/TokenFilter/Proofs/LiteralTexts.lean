import TokenFilter.Proofs.Escapes
import TokenFilter.Proofs.FloatTexts
import TokenFilter.Proofs.Rereading
import TokenFilter.Proofs.Selection

set_option autoImplicit false

namespace TokenFilter

namespace Text

def isBare (c : Char) : Bool := c != ' ' && c != '(' && c != ')' && c != '"'

-- Letters, digits, the underscore, the mark of a raw identifier, and all that is not ASCII.
def isNameChar (c : Char) : Bool := c.isAlphanum || c == '_' || c == '#' || 127 < c.toNat

def Identifier (s : String) : Prop := s.toList ≠ [] ∧ s.toList.all isNameChar = true

instance (s : String) : Decidable (Identifier s) := inferInstanceAs (Decidable (_ ∧ _))

theorem bare_of (p : Char → Bool) (free : [' ', '(', ')', '"'].any p = false) (c : Char) (sort : p c = true) :
    isBare c = true := by
  have other := List.any_eq_false.mp free
  by_cases inside : c ∈ [' ', '(', ')', '"']
  · exact absurd sort (other c inside)
  · simpa [isBare, and_assoc] using inside

theorem bare_word (word : String) (bare : word.toList.all isBare = true) : ∀ c ∈ word.toList, isBare c = true :=
  List.all_eq_true.mp bare

theorem name_bare (c : Char) (name : isNameChar c = true) : isBare c = true := bare_of isNameChar (by decide) c name

theorem numeral_bare (c : Char) (numeral : isNumeral c = true) : isBare c = true :=
  bare_of isNumeral (by decide) c numeral

theorem numbers_bare (cs : List Char) (numbers : ∀ c ∈ cs, isNumberChar c = true) :
    ∀ c ∈ (String.ofList cs).toList, isBare c = true := by
  rw [String.toList_ofList]
  exact fun c member => bare_of isNumberChar (by decide) c (numbers c member)

theorem moments_bare (cs : List Char) (moments : ∀ c ∈ cs, isMomentChar c = true)
    (solid : ∀ c ∈ cs, isBlank c = false) : ∀ c ∈ (String.ofList cs).toList, isBare c = true := by
  rw [String.toList_ofList]
  intro c member
  refine bare_of (fun c => isMomentChar c && !isBlank c) (by decide) c ?_
  simp [moments c member, solid c member]

theorem identifier_bare (s : String) (identifier : Identifier s) : ∀ c ∈ s.toList, isBare c = true :=
  fun c member => name_bare c (List.all_eq_true.mp identifier.2 c member)

end Text

namespace Binary

variable {f : Format}

theorem infinite_words (x : Binary f) (infinite : x.isFinite = false) :
    (x = .nan ∧ x.chars = "NaN".toList) ∨ (x = .infinite false ∧ x.chars = "inf".toList) ∨
      (x = .infinite true ∧ x.chars = "-inf".toList) := by
  cases x with
  | nan => exact .inl ⟨rfl, rfl⟩
  | number negative rank rank_le =>
      have above : ¬ rank < f.infinity := of_decide_eq_false infinite
      obtain rfl : rank = f.infinity := by omega
      have word : Binary.chars (.number negative f.infinity rank_le) =
          if negative then '-' :: "inf".toList else "inf".toList := by
        unfold Binary.chars Style.chars
        simp
      cases negative with
      | false => exact .inr (.inl ⟨rfl, word⟩)
      | true => exact .inr (.inr ⟨rfl, word⟩)

theorem infinite_sorts (x : Binary f) (infinite : x.isFinite = false) :
    ∃ c ∈ x.chars, Text.isNumeral c = false := by
  rcases infinite_words x infinite with ⟨_, word⟩ | ⟨_, word⟩ | ⟨_, word⟩
  · exact ⟨'N', by rw [word]; decide, rfl⟩
  · exact ⟨'n', by rw [word]; decide, rfl⟩
  · exact ⟨'n', by rw [word]; decide, rfl⟩

theorem infinite_inj (x y : Binary f) (infinite : x.isFinite = false) (infinite' : y.isFinite = false)
    (same : x.chars = y.chars) : x = y := by
  rcases infinite_words x infinite with ⟨rfl, word⟩ | ⟨rfl, word⟩ | ⟨rfl, word⟩ <;>
    rcases infinite_words y infinite' with ⟨rfl, word'⟩ | ⟨rfl, word'⟩ | ⟨rfl, word'⟩ <;>
    have words := word.symm.trans (same.trans word') <;>
    first | rfl | exact absurd words (by decide)

theorem chars_inj (x y : Binary64) (same : x.chars = y.chars) : x = y := by
  cases finite : x.isFinite <;> cases finite' : y.isFinite
  · exact infinite_inj x y finite finite' same
  · obtain ⟨c, member, other⟩ := infinite_sorts x finite
    rw [same] at member
    rw [(finite_sorts .plain y finite').2 c member] at other
    cases other
  · obtain ⟨c, member, other⟩ := infinite_sorts y finite'
    rw [← same] at member
    rw [(finite_sorts .plain x finite).2 c member] at other
    cases other
  · exact finite_inj .plain .double (by decide) x y finite finite' same

theorem chars_bare (x : Binary64) : ∀ c ∈ x.chars, Text.isBare c = true := by
  cases finite : x.isFinite with
  | true => exact fun c member => Text.numeral_bare c ((finite_sorts .plain x finite).2 c member)
  | false =>
      rcases infinite_words x finite with ⟨_, word⟩ | ⟨_, word⟩ | ⟨_, word⟩ <;>
        rw [word] <;> exact Text.bare_word _ (by decide)

end Binary

theorem Guid.chars_bare (g : Guid) : ∀ c ∈ g.chars, Text.isBare c = true := by
  intro c member
  rcases g.chars_sorts c member with rfl | hex
  · rfl
  · exact Text.bare_of (fun c => (hexValue? c).isSome) (by decide) c hex

-- The names in the kind are identifiers, and within an enumeration each is given once.
mutual
def Kind.Legible : Kind → Prop
  | .enumeration e => (∀ variant ∈ e.variants, Text.Identifier variant) ∧ e.variants.Nodup
  | .keyed k => (∀ member ∈ k.members, Text.Identifier member.name) ∧ (k.members.map Member.name).Nodup
  | .nullable inner => inner.Legible
  | .list item => item.Legible
  | .record ⟨_, _, fields⟩ => FieldsLegible fields
  | _ => True
def FieldsLegible : List Field → Prop
  | [] => True
  | ⟨name, kind⟩ :: rest => Text.Identifier name ∧ kind.Legible ∧ FieldsLegible rest
end

def SchemaOf.Legible (schema : Schema) : Prop := FieldsLegible schema.fields

theorem legible_non_null (kind : Kind) (legible : kind.Legible) : kind.nonNull.Legible := by
  fun_induction Kind.nonNull kind with
  | case1 inner ih => exact ih legible
  | case2 kind plain => exact legible

theorem read_member (k : Keyed) (cs : List Char) (value : Value) (read : Kind.readLiteral cs (.keyed k) = .ok value) :
    ∃ member ∈ k.members, value = k.value member := by
  obtain ⟨selected, _, given⟩ := (keyed_literal k cs value).mp read
  obtain ⟨_, member, _, found, same⟩ := (member_iff k _ selected value).mp given
  exact ⟨member, List.mem_reverse.mp (List.mem_of_find?_eq_some found), same⟩

section Shown

variable (kind : Kind) (legible : kind.Legible)
include legible

theorem literal_bare (plain : kind.isText = false) (cs : List Char) (value : Value)
    (read : kind.readLiteral cs = .ok value) : ∀ c ∈ value.render.toList, Text.isBare c = true := by
  have scalar := read_literal_scalar kind cs value read
  have written := literal_written kind cs value read
  have named := legible_non_null kind legible
  have other : kind.nonNull ≠ .text := by
    intro text
    simp [Kind.isText, text] at plain
  rw [← read_non_null] at read
  generalize kind.nonNull = inner at read scalar named other
  cases scalar with
  | bool b => cases b <;> exact Text.bare_word _ (by decide)
  | date d => exact Text.moments_bare _ (Calendar.date_chars _ d (Calendar.read_date_chars d)) (Calendar.date_solid d)
  | dateTime d =>
      exact Text.moments_bare _ (Calendar.date_time_chars _ d (Calendar.read_date_time_chars d written))
        (Calendar.date_time_solid d)
  | dateTimeOffset d =>
      exact Text.moments_bare _ (Calendar.offset_date_time_chars _ d (Calendar.read_offset_date_time_chars d written))
        (Calendar.offset_date_time_solid d)
  | decimal d => exact Text.numbers_bare _ (Decimal.read_chars _ _ d.read_decimal_chars)
  | float x =>
      rw [Value.render, String.toList_ofList]
      exact x.chars_bare
  | guid g =>
      rw [Value.render, String.toList_ofList]
      exact g.chars_bare
  | int n => exact Text.numbers_bare _ (Integer.int64_chars _ n (Integer.read_int64 n))
  | uint n => exact Text.numbers_bare _ (Integer.uint64_chars _ n (Integer.read_uint64 n))
  | text s => exact absurd rfl other
  | enumeration e variant =>
      obtain ⟨_, listed, same⟩ := read_enumeration e cs _ read
      cases same
      exact Text.identifier_bare variant (named.1 variant listed)
  | keyed k name key =>
      obtain ⟨member, listed, same⟩ := read_member k cs _ read
      cases same
      exact Text.identifier_bare member.name (named.1 member listed)

theorem literal_told (cs ds : List Char) (value other : Value) (read : kind.readLiteral cs = .ok value)
    (read' : kind.readLiteral ds = .ok other) (same : value.render = other.render) : value = other := by
  have scalar := read_literal_scalar kind cs value read
  have scalar' := read_literal_scalar kind ds other read'
  have written := literal_written kind cs value read
  have written' := literal_written kind ds other read'
  have named := legible_non_null kind legible
  rw [← read_non_null] at read read'
  have chars : ∀ as bs : List Char, String.ofList as = String.ofList bs → as = bs := fun _ _ => String.ofList_injective
  generalize kind.nonNull = inner at read read' scalar scalar' named
  cases scalar with
  | bool b =>
      cases scalar' with
      | bool b' => cases b <;> cases b' <;> first | rfl | exact absurd same (by decide)
  | date d =>
      cases scalar' with
      | date d' => exact congrArg Value.date (Calendar.date_inj d d' (chars _ _ same))
  | dateTime d =>
      cases scalar' with
      | dateTime d' => exact congrArg Value.dateTime (Calendar.date_time_inj d d' written written' (chars _ _ same))
  | dateTimeOffset d =>
      cases scalar' with
      | dateTimeOffset d' =>
          exact congrArg Value.dateTimeOffset (Calendar.offset_date_time_inj d d' written written' (chars _ _ same))
  | decimal d =>
      cases scalar' with
      | decimal d' => exact congrArg Value.decimal (Decimal.text_inj d d' (chars _ _ same))
  | float x =>
      cases scalar' with
      | float y => exact congrArg Value.float (x.chars_inj y (chars _ _ same))
  | guid g =>
      cases scalar' with
      | guid g' => exact congrArg Value.guid (Guid.groups_inj g g' (chars _ _ same))
  | int n =>
      cases scalar' with
      | int m => exact congrArg Value.int (Int64.toInt_inj.mp (Integer.chars_inj _ _ (chars _ _ same)))
  | uint n =>
      cases scalar' with
      | uint m => exact congrArg Value.uint (UInt64.toNat_inj.mp (Integer.natural_inj _ _ (chars _ _ same)))
  | text s =>
      cases scalar' with
      | text t =>
          have texts : Text.quoted s = Text.quoted t := same
          obtain ⟨rfl, _⟩ := Text.quoted_unique s t [] [] (by rw [texts])
          rfl
  | enumeration e variant =>
      cases scalar' with
      | enumeration _ variant' => exact congrArg (Value.enumeration e.path) same
  | keyed k name key =>
      obtain ⟨member, listed, here⟩ := read_member k cs _ read
      obtain ⟨member', listed', there⟩ := read_member k ds _ read'
      rw [here, there] at same ⊢
      rw [List.inj_on_of_nodup_map named.2 listed listed' same]

end Shown

end TokenFilter
