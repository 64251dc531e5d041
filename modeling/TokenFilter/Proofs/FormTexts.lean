import TokenFilter.Form
import TokenFilter.Proofs.Grouping
import TokenFilter.Proofs.Utf8Texts

set_option autoImplicit false

namespace TokenFilter.Form

def isReserved (b : UInt8) : Bool := [percent, ampersand, equalsSign, plus].contains b || 0x80 ≤ b

inductive ByteForm : UInt8 → List UInt8 → Prop where
  | plain {b : UInt8} (free : isReserved b = false) : ByteForm b [b]
  | escaped {b high low : UInt8} (first : hexValue? high = some (b / 16)) (second : hexValue? low = some (b % 16)) :
      ByteForm b [percent, high, low]
  | plus : ByteForm space [plus]

inductive BytesForm : List UInt8 → List UInt8 → Prop where
  | nil : BytesForm [] []
  | cons {b : UInt8} {bytes form rest : List UInt8} (here : ByteForm b form) (later : BytesForm bytes rest) :
      BytesForm (b :: bytes) (form ++ rest)

inductive PieceForm : String × String → List UInt8 → Prop where
  | pair {name value : String} {front back : List UInt8} (named : BytesForm (Text.utf8 name.toList) front)
      (valued : BytesForm (Text.utf8 value.toList) back) : PieceForm (name, value) (front ++ equalsSign :: back)

def ofBytes (bytes : List UInt8) : String := String.ofList (bytes.map Char.ofUInt8)

def joined (pieces : List (List UInt8)) : List UInt8 := [ampersand].intercalate pieces

def Writes (pairs : List (String × String)) (text : String) : Prop :=
  ∃ pieces, List.Forall₂ PieceForm pairs pieces ∧ text = ofBytes (joined pieces)

section Bytes

def spaced (b : UInt8) : UInt8 := if b = plus then space else b

theorem free_iff (b : UInt8) :
    isReserved b = false ↔ b ≠ percent ∧ b ≠ ampersand ∧ b ≠ equalsSign ∧ b ≠ plus ∧ b < 0x80 := by
  simp [isReserved, and_assoc]

theorem hex_value_cases (b value : UInt8) (read : hexValue? b = some value) :
    0x30 ≤ b ∧ b ≤ 0x39 ∨ 0x41 ≤ b ∧ b ≤ 0x46 ∨ 0x61 ≤ b ∧ b ≤ 0x66 := by
  unfold hexValue? at read
  split at read
  · exact .inl ‹_›
  split at read
  · exact .inr (.inl ‹_›)
  split at read
  · exact .inr (.inr ‹_›)
  · cases read

theorem hex_free (b value : UInt8) (read : hexValue? b = some value) : isReserved b = false := by
  have cases := hex_value_cases b value read
  rw [free_iff]
  simp only [percent, ampersand, equalsSign, plus, ne_eq, ← UInt8.toNat_inj, UInt8.le_iff_toNat_le,
    UInt8.lt_iff_toNat_lt, UInt8.toNat_ofNat] at *
  omega

theorem free_spaced (b : UInt8) (free : isReserved b = false) : spaced b = b :=
  if_neg ((free_iff b).mp free).2.2.2.1

theorem escaped_none (b : UInt8) (rest : List UInt8) (other : b ≠ percent) : escaped? b rest = none := by
  unfold escaped?
  split
  · rw [if_neg other]
  · rfl

theorem unescape_plain (b : UInt8) (rest : List UInt8) (other : b ≠ percent) :
    unescapeAfter 0 (b :: rest) = b :: unescapeAfter 0 rest := by
  rw [unescapeAfter, escaped_none b rest other]

theorem unescape_escaped (b high low : UInt8) (rest : List UInt8) (first : hexValue? high = some (b / 16))
    (second : hexValue? low = some (b % 16)) :
    unescapeAfter 0 (percent :: high :: low :: rest) = b :: unescapeAfter 0 rest := by
  have value : b / 16 * 16 + b % 16 = b := by
    rw [← UInt8.toNat_inj]
    have small := b.toNat_lt
    simp only [UInt8.toNat_add, UInt8.toNat_mul, UInt8.toNat_div, UInt8.toNat_mod, UInt8.toNat_ofNat,
      Nat.reducePow, Nat.reduceMod]
    omega
  have whole : escaped? percent (high :: low :: rest) = some b := by
    simp [escaped?, first, second, value]
  rw [unescapeAfter, whole]
  rfl

theorem byte_read (b : UInt8) (form rest : List UInt8) (written : ByteForm b form) :
    unescapeAfter 0 ((form ++ rest).map spaced) = b :: unescapeAfter 0 (rest.map spaced) := by
  cases written with
  | plain free =>
      rw [List.singleton_append, List.map_cons, free_spaced b free]
      exact unescape_plain b _ ((free_iff b).mp free).1
  | @escaped _ high low first second =>
      have mark : spaced percent = percent := rfl
      rw [List.cons_append, List.cons_append, List.singleton_append, List.map_cons, List.map_cons, List.map_cons, mark,
        free_spaced high (hex_free high _ first), free_spaced low (hex_free low _ second)]
      exact unescape_escaped b high low _ first second
  | plus => exact unescape_plain space _ (by decide)

theorem bytes_read (bytes form : List UInt8) (written : BytesForm bytes form) :
    unescapeAfter 0 (form.map spaced) = bytes := by
  induction written with
  | nil => rfl
  | cons here later ih => rw [byte_read _ _ _ here, ih]

theorem part_read (s : String) (form : List UInt8) (written : BytesForm (Text.utf8 s.toList) form) :
    decodePart form = s := by
  change String.ofList (Text.decodeUtf8 (unescapeAfter 0 (form.map spaced))) = s
  rw [bytes_read _ _ written, Text.decode_utf8, String.ofList_toList]

end Bytes

section Marks

theorem byte_unparted (b : UInt8) (form : List UInt8) (written : ByteForm b form) :
    ∀ c ∈ form, c < 0x80 ∧ c ≠ ampersand ∧ c ≠ equalsSign := by
  have free : ∀ c, isReserved c = false → c < 0x80 ∧ c ≠ ampersand ∧ c ≠ equalsSign := by
    intro c free
    obtain ⟨_, noAmpersand, noEquals, _, ascii⟩ := (free_iff c).mp free
    exact ⟨ascii, noAmpersand, noEquals⟩
  cases written with
  | plain here => exact List.forall_mem_singleton.mpr (free b here)
  | @escaped _ high low first second =>
      refine List.forall_mem_cons.mpr ⟨by decide, List.forall_mem_cons.mpr ⟨?_, List.forall_mem_singleton.mpr ?_⟩⟩
      · exact free high (hex_free high _ first)
      · exact free low (hex_free low _ second)
  | plus => exact List.forall_mem_singleton.mpr (by decide)

theorem bytes_unparted (bytes form : List UInt8) (written : BytesForm bytes form) :
    ∀ c ∈ form, c < 0x80 ∧ c ≠ ampersand ∧ c ≠ equalsSign := by
  induction written with
  | nil => simp
  | cons here later ih => exact List.forall_mem_append.mpr ⟨byte_unparted _ _ here, ih⟩

theorem piece_read (pair : String × String) (form : List UInt8) (written : PieceForm pair form) :
    decodePiece form = pair := by
  cases written with
  | @pair name value front back named valued =>
      have unequal : ∀ c ∈ front, (c != equalsSign) = true := by
        intro c member
        simpa using (bytes_unparted _ _ named c member).2.2
      unfold decodePiece
      rw [List.takeWhile_append_of_pos unequal, List.dropWhile_append_of_pos unequal,
        List.takeWhile_cons_of_neg (by simp), List.dropWhile_cons_of_neg (by simp), List.append_nil, List.drop_one,
        List.tail_cons, part_read name front named, part_read value back valued]

theorem piece_unparted (pair : String × String) (form : List UInt8) (written : PieceForm pair form) :
    form ≠ [] ∧ ∀ c ∈ form, c < 0x80 ∧ c ≠ ampersand := by
  cases written with
  | @pair name value front back named valued =>
      have apart : ∀ bytes part, BytesForm bytes part → ∀ c ∈ part, c < 0x80 ∧ c ≠ ampersand := by
        intro bytes part written c member
        obtain ⟨ascii, noAmpersand, _⟩ := bytes_unparted bytes part written c member
        exact ⟨ascii, noAmpersand⟩
      refine ⟨by simp, List.forall_mem_append.mpr ⟨apart _ _ named, ?_⟩⟩
      exact List.forall_mem_cons.mpr ⟨by decide, apart _ _ valued⟩

theorem ascii_bytes (bytes : List UInt8) (ascii : ∀ b ∈ bytes, b < 0x80) :
    Text.utf8 (ofBytes bytes).toList = bytes := by
  have each : ∀ b ∈ bytes, String.utf8EncodeChar (Char.ofUInt8 b) = [b] := by
    intro b member
    have small : b.toNat < 0x80 := UInt8.lt_iff_toNat_lt.mp (ascii b member)
    have code : (Char.ofUInt8 b).toNat = b.toNat := b.toNat_toUInt32
    unfold String.utf8EncodeChar
    change (if (Char.ofUInt8 b).toNat ≤ 127 then [UInt8.ofNat (Char.ofUInt8 b).toNat] else _) = [b]
    rw [code, if_pos (by omega), UInt8.ofNat_toNat]
  rw [ofBytes, String.toList_ofList, Text.utf8, List.flatMap_map, List.flatMap_congr each, List.flatMap_singleton']

theorem joined_ascii (pieces : List (List UInt8)) (ascii : ∀ piece ∈ pieces, ∀ b ∈ piece, b < 0x80) :
    ∀ b ∈ joined pieces, b < 0x80 := by
  induction pieces with
  | nil => simp [joined]
  | cons piece rest ih =>
      obtain ⟨here, later⟩ := List.forall_mem_cons.mp ascii
      cases rest with
      | nil => simpa [joined] using here
      | cons next others =>
          have mark : ∀ b ∈ [ampersand], b < 0x80 := List.forall_mem_singleton.mpr (by decide)
          rw [joined, List.intercalate_cons_cons]
          exact List.forall_mem_append.mpr ⟨List.forall_mem_append.mpr ⟨here, mark⟩, ih later⟩

theorem pieces_split (pieces : List (List UInt8)) (apart : ∀ piece ∈ pieces, piece ≠ [] ∧ ampersand ∉ piece) :
    ((joined pieces).splitOn ampersand).filter (fun piece => !piece.isEmpty) = pieces := by
  cases pieces with
  | nil => rfl
  | cons piece rest =>
      rw [joined, List.splitOn_intercalate ampersand (fun part member => (apart part member).2) (by simp)]
      refine List.filter_eq_self.mpr ?_
      intro part member
      simpa using (apart part member).1

end Marks

theorem decode_written (pairs : List (String × String)) (text : String) (written : Writes pairs text) :
    decode text = .ok pairs := by
  obtain ⟨pieces, each, rfl⟩ := written
  have unparted : ∀ piece ∈ pieces, piece ≠ [] ∧ ∀ c ∈ piece, c < 0x80 ∧ c ≠ ampersand := by
    intro piece member
    obtain ⟨pair, _, form⟩ := forall_mem_right each piece member
    exact piece_unparted pair piece form
  have ascii := joined_ascii pieces fun piece member b inside => ((unparted piece member).2 b inside).1
  have apart : ∀ piece ∈ pieces, piece ≠ [] ∧ ampersand ∉ piece := by
    intro piece member
    exact ⟨(unparted piece member).1, fun mark => ((unparted piece member).2 _ mark).2 rfl⟩
  have read : pieces.map decodePiece = pairs := by
    clear unparted ascii apart
    induction each with
    | nil => rfl
    | cons here _ ih => rw [List.map_cons, piece_read _ _ here, ih]
  rw [decode, ascii_bytes _ ascii, pieces_split pieces apart, read]

theorem query_written (pairs : List (String × String)) (text : String) (written : Writes pairs text) :
    query text = .ok (Query.collect (pairs.map fun pair => (pair.1, [pair.2]))) := by
  rw [query, decode_written pairs text written]
  rfl

-- A way to write form data: which bytes are escaped, with digits of which case, and whether a space is a plus.
structure Escaping where
  escapes : UInt8 → Bool
  reserved : ∀ b, isReserved b = true → escapes b = true
  smallDigits : Bool
  plusForSpace : Bool

namespace Escaping

variable (escaping : Escaping)

def digit (value : UInt8) : UInt8 :=
  if value < 10 then 0x30 + value else (if escaping.smallDigits then 0x61 else 0x41) + (value - 10)

def escape (b : UInt8) : List UInt8 := [percent, escaping.digit (b / 16), escaping.digit (b % 16)]

def byte (b : UInt8) : List UInt8 :=
  if b = space then if escaping.plusForSpace then [plus] else escaping.escape b
  else if escaping.escapes b then escaping.escape b
  else [b]

def part (s : String) : List UInt8 := (Text.utf8 s.toList).flatMap escaping.byte

def piece (pair : String × String) : List UInt8 := escaping.part pair.1 ++ equalsSign :: escaping.part pair.2

def encode (pairs : List (String × String)) : String := ofBytes (joined (pairs.map escaping.piece))

theorem digit_read (value : UInt8) (small : value < 16) : hexValue? (escaping.digit value) = some value := by
  have each : ∀ lower : Bool, ∀ n : Fin 16,
      hexValue? (if UInt8.ofNat n < 10 then 0x30 + UInt8.ofNat n
        else (if lower then 0x61 else 0x41) + (UInt8.ofNat n - 10)) = some (UInt8.ofNat n) := by
    decide
  have here := each escaping.smallDigits ⟨value.toNat, UInt8.lt_iff_toNat_lt.mp small⟩
  rwa [UInt8.ofNat_toNat] at here

theorem escape_form (b : UInt8) : ByteForm b (escaping.escape b) := by
  have small := b.toNat_lt
  refine .escaped (escaping.digit_read _ ?_) (escaping.digit_read _ ?_)
  · simp only [UInt8.lt_iff_toNat_lt, UInt8.toNat_div, UInt8.toNat_ofNat, Nat.reducePow, Nat.reduceMod]
    omega
  · simp only [UInt8.lt_iff_toNat_lt, UInt8.toNat_mod, UInt8.toNat_ofNat, Nat.reducePow, Nat.reduceMod]
    omega

theorem byte_form (b : UInt8) : ByteForm b (escaping.byte b) := by
  unfold byte
  split
  · rename_i blank
    subst blank
    split
    · exact .plus
    · exact escaping.escape_form space
  split
  · exact escaping.escape_form b
  · rename_i kept
    refine .plain ?_
    rw [← Bool.not_eq_true]
    intro reserved
    exact kept (escaping.reserved b reserved)

theorem part_form (bytes : List UInt8) : BytesForm bytes (bytes.flatMap escaping.byte) := by
  induction bytes with
  | nil => exact .nil
  | cons b bytes ih => exact .cons (escaping.byte_form b) ih

theorem encode_writes (pairs : List (String × String)) : Writes pairs (escaping.encode pairs) := by
  refine ⟨pairs.map escaping.piece, List.forall₂_map_right_iff.mpr (List.forall₂_same.mpr ?_), rfl⟩
  intro pair _
  exact .pair (escaping.part_form _) (escaping.part_form _)

end Escaping

-- Form data gives the pairs that it was written for, however the bytes were escaped: one entry for each name, where it
-- first stands, with the values in their order.
theorem query_encoded (pairs : List (String × String)) (text : String) (written : Writes pairs text) :
    query text = .ok (Query.collect (pairs.map fun pair => (pair.1, [pair.2]))) ∧
      query text = .ok ((pairs.map Prod.fst).eraseDups.map fun name =>
        ⟨name, (pairs.filter fun pair => pair.1 == name).map Prod.snd⟩) ∧
      ∀ escaping : Escaping, Writes pairs (escaping.encode pairs) ∧ query (escaping.encode pairs) = query text := by
  have collected := query_written pairs text written
  refine ⟨collected, ?_, ?_⟩
  · have single : ∀ name, Query.given (pairs.map fun pair => (pair.1, [pair.2])) name =
        (pairs.filter fun pair => pair.1 == name).map Prod.snd := by
      intro name
      rw [Query.given, List.filter_map, List.flatMap_map, List.map_eq_flatMap]
      rfl
    rw [collected, Query.collect_grouped, Query.grouped, List.map_map]
    exact congrArg _ (List.map_congr_left fun name _ => congrArg (Entry.mk name) (single name))
  · intro escaping
    have encoded := escaping.encode_writes pairs
    exact ⟨encoded, (query_written pairs _ encoded).trans collected.symm⟩

theorem query_encoded_of_people :
    let pairs := [("âge", "18&30"), ("", ""), ("name=", "a+b c😀%41"), ("âge", "")]
    let text := "%C3%A2ge=18%2630&=&name%3D=a%2Bb+c%F0%9F%98%80%2541&%C3%A2ge="
    Writes pairs text ∧ query text = .ok [⟨"âge", ["18&30", ""]⟩, ⟨"", [""]⟩, ⟨"name=", ["a+b c😀%41"]⟩] ∧
      query "%c3%a2%67%65=1%38&" = query "âge=18" := by
  intro pairs text
  let sparing : Escaping := ⟨isReserved, fun _ reserved => reserved, false, true⟩
  have same : text = sparing.encode pairs := by decide +kernel
  have written : Writes pairs text := same ▸ sparing.encode_writes pairs
  obtain ⟨_, entries, _⟩ := query_encoded pairs text written
  exact ⟨written, entries.trans (by decide), by decide +kernel⟩

end TokenFilter.Form
