import TokenFilter.Text.Quoted
import TokenFilter.Proofs.Numerals

set_option autoImplicit false

namespace TokenFilter.Text

section Encoded

variable (encode : Char → List Char) (read : List Char → Option (Char × List Char))
  (reads : ∀ c rest, read (encode c ++ rest) = some (c, rest))
  (closed : ∀ c rest others, encode c ++ rest ≠ '"' :: others)
include reads closed

theorem encoded_unique (cs ds rest others : List Char)
    (same : cs.flatMap encode ++ '"' :: rest = ds.flatMap encode ++ '"' :: others) : cs = ds ∧ rest = others := by
  induction cs generalizing ds with
  | nil =>
      cases ds with
      | nil => exact ⟨rfl, (List.cons.inj same).2⟩
      | cons d ds =>
          rw [List.flatMap_cons, List.append_assoc] at same
          exact absurd same.symm (closed d _ _)
  | cons c cs ih =>
      cases ds with
      | nil =>
          rw [List.flatMap_cons, List.append_assoc] at same
          exact absurd same (closed c _ _)
      | cons d ds =>
          rw [List.flatMap_cons, List.flatMap_cons, List.append_assoc, List.append_assoc] at same
          have first := reads c (cs.flatMap encode ++ '"' :: rest)
          rw [same, reads] at first
          obtain ⟨rfl, tails⟩ := Prod.mk.inj (Option.some.inj first)
          obtain ⟨rfl, rest⟩ := ih ds tails.symm
          exact ⟨rfl, rest⟩

end Encoded

def isHex (c : Char) : Bool := (Guid.hexValue? c).isSome

def codePoint? : List Char → Option (Char × List Char)
  | [] => none
  | _ :: cs => (Guid.hexFrom? 0 (cs.takeWhile isHex)).map fun code => (Char.ofNat code, (cs.dropWhile isHex).drop 1)

def escaped? (c : Char) (rest : List Char) : Option (Char × List Char) :=
  match c with
  | '0' => some ('\x00', rest)
  | 't' => some ('\t', rest)
  | 'r' => some ('\r', rest)
  | 'n' => some ('\n', rest)
  | 'u' => codePoint? rest
  | other => some (other, rest)

def character? : List Char → Option (Char × List Char)
  | [] => none
  | c :: rest =>
    if c = '\\' then
      match rest with
      | [] => none
      | c :: rest => escaped? c rest
    else some (c, rest)

theorem code_point_read (c : Char) (rest : List Char) : character? (codePointEscape c ++ rest) = some (c, rest) := by
  have value := Guid.hex_from_digits c.toNat
  have hex : ∀ d ∈ Nat.toDigits 16 c.toNat, isHex d = true := Guid.hex_from_hex 0 _ _ value
  have brace : Stops isHex ('\x7d' :: rest) := stops_cons _ _ _ rfl
  obtain ⟨taken, dropped⟩ := run_take isHex _ _ hex brace
  have text : codePointEscape c ++ rest = '\\' :: 'u' :: '\x7b' :: (Nat.toDigits 16 c.toNat ++ '\x7d' :: rest) := by
    simp [codePointEscape]
  rw [text]
  show codePoint? ('\x7b' :: (Nat.toDigits 16 c.toNat ++ '\x7d' :: rest)) = some (c, rest)
  rw [codePoint?, taken, dropped, value, Option.map_some, Char.ofNat_toNat]
  rfl

theorem quote_read (c : Char) (rest : List Char) : character? (quoteChar c ++ rest) = some (c, rest) := by
  unfold quoteChar
  by_cases null : c = '\x00'
  · subst null
    rfl
  by_cases tab : c = '\t'
  · subst tab
    rfl
  by_cases back : c = '\r'
  · subst back
    rfl
  by_cases newline : c = '\n'
  · subst newline
    rfl
  by_cases backslash : c = '\\'
  · subst backslash
    rfl
  by_cases quote : c = '"'
  · subst quote
    rfl
  rw [if_neg null, if_neg tab, if_neg back, if_neg newline, if_neg backslash, if_neg quote]
  split
  · exact code_point_read c rest
  · simp [character?, backslash]

theorem quote_closed (c : Char) (rest others : List Char) : quoteChar c ++ rest ≠ '"' :: others := by
  intro same
  have read := quote_read c rest
  rw [same] at read
  have quote : c = '"' := by
    simpa [character?] using congrArg (fun found => found.map Prod.fst) read.symm
  subst quote
  cases same

theorem quoted_unique (s t : String) (rest others : List Char)
    (same : (quoted s).toList ++ rest = (quoted t).toList ++ others) : s = t ∧ rest = others := by
  rw [toList_quoted, toList_quoted, quoteChars, quoteChars, List.cons_append, List.cons_append, List.append_assoc,
    List.append_assoc] at same
  obtain ⟨texts, rest⟩ :=
    encoded_unique quoteChar character? quote_read quote_closed _ _ rest others (List.cons.inj same).2
  exact ⟨String.toList_inj.mp texts, rest⟩

end TokenFilter.Text
