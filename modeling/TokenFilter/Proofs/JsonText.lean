import TokenFilter.Json
import TokenFilter.Proofs.Escapes

set_option autoImplicit false

namespace TokenFilter.Json

mutual
def Proper : Json → Prop
  | .null => True
  | .bool _ => True
  | .number text => text.toList ≠ [] ∧ ∀ c ∈ text.toList, Text.isNumeral c = true
  | .string _ => True
  | .array items => AllProper items
  | .object members => MembersProper members
def AllProper : List Json → Prop
  | [] => True
  | item :: rest => Proper item ∧ AllProper rest
def MembersProper : List (String × Json) → Prop
  | [] => True
  | (_, value) :: rest => Proper value ∧ MembersProper rest
end

section Strings

def unescaped? (c : Char) (rest : List Char) : Option (Char × List Char) :=
  match c with
  | 'n' => some ('\n', rest)
  | 'r' => some ('\r', rest)
  | 't' => some ('\t', rest)
  | 'b' => some ('\x08', rest)
  | 'f' => some ('\x0c', rest)
  | 'u' =>
    match rest with
    | _ :: _ :: high :: low :: rest =>
      (Guid.hexValue? high).bind fun h => (Guid.hexValue? low).map fun l => (Char.ofNat (16 * h + l), rest)
    | _ => none
  | other => some (other, rest)

def character? : List Char → Option (Char × List Char)
  | [] => none
  | c :: rest =>
    if c = '\\' then
      match rest with
      | [] => none
      | c :: rest => unescaped? c rest
    else some (c, rest)

theorem escape_read (c : Char) (rest : List Char) : character? (escapeChar c ++ rest) = some (c, rest) := by
  unfold escapeChar
  by_cases quote : c = '"'
  · subst quote
    rfl
  by_cases backslash : c = '\\'
  · subst backslash
    rfl
  by_cases newline : c = '\n'
  · subst newline
    rfl
  by_cases back : c = '\r'
  · subst back
    rfl
  by_cases tab : c = '\t'
  · subst tab
    rfl
  by_cases backspace : c = '\x08'
  · subst backspace
    rfl
  by_cases feed : c = '\x0c'
  · subst feed
    rfl
  rw [if_neg quote, if_neg backslash, if_neg newline, if_neg back, if_neg tab, if_neg backspace, if_neg feed]
  by_cases control : c.toNat < 32
  · have high := Guid.hex_digit (c.toNat / 16) (by omega)
    have low := Guid.hex_digit (c.toNat % 16) (by omega)
    have whole : Char.ofNat (16 * (c.toNat / 16) + c.toNat % 16) = c := by
      rw [Nat.div_add_mod, Char.ofNat_toNat]
    simp [control, character?, unescaped?, high, low, whole]
  · simp [control, character?, backslash]

theorem escape_not_quote (c : Char) (rest others : List Char) (same : escapeChar c ++ rest = '"' :: others) :
    False := by
  have read := escape_read c rest
  rw [same] at read
  have quote : c = '"' := by
    simpa [character?] using congrArg (fun found => found.map Prod.fst) read.symm
  subst quote
  cases same

theorem escaped_unique (cs ds rest others : List Char)
    (same : cs.flatMap escapeChar ++ '"' :: rest = ds.flatMap escapeChar ++ '"' :: others) :
    cs = ds ∧ rest = others :=
  Text.encoded_unique escapeChar character? escape_read escape_not_quote cs ds rest others same

theorem quote_chars (s : String) : (quote s).toList = '"' :: (s.toList.flatMap escapeChar ++ ['"']) := by
  rw [quote, String.toList_ofList, List.cons_append]

theorem quote_unique (s t : String) (rest others : List Char)
    (same : (quote s).toList ++ rest = (quote t).toList ++ others) : s = t ∧ rest = others := by
  rw [quote_chars, quote_chars, List.cons_append, List.cons_append, List.append_assoc, List.append_assoc] at same
  obtain ⟨texts, rest⟩ := escaped_unique _ _ rest others (List.cons.inj same).2
  exact ⟨String.toList_inj.mp texts, rest⟩

end Strings

section Parts

theorem array_chars (item : Json) (items : List Json) (rest : List Char) :
    (render (.array (item :: items))).toList ++ rest =
      '[' :: ((render item).toList ++ ((renderItems items).toList ++ ']' :: rest)) := by
  simp [render]

theorem items_chars (item : Json) (items : List Json) (rest : List Char) :
    (renderItems (item :: items)).toList ++ rest =
      ',' :: ((render item).toList ++ ((renderItems items).toList ++ rest)) := by
  simp [renderItems]

theorem object_chars (name : String) (value : Json) (members : List (String × Json)) (rest : List Char) :
    (render (.object ((name, value) :: members))).toList ++ rest =
      '\x7b' :: ((quote name).toList ++ (':' :: ((render value).toList ++
        ((renderMembers members).toList ++ '\x7d' :: rest)))) := by
  simp [render]

theorem members_chars (name : String) (value : Json) (members : List (String × Json)) (rest : List Char) :
    (renderMembers ((name, value) :: members)).toList ++ rest =
      ',' :: ((quote name).toList ++ (':' :: ((render value).toList ++ ((renderMembers members).toList ++ rest)))) := by
  simp [renderMembers]

end Parts

section Sorts

-- What a value's text begins with, where one digit stands for all characters of numerals.
def opening : Json → Char
  | .null => 'n'
  | .bool true => 't'
  | .bool false => 'f'
  | .number _ => '0'
  | .string _ => '"'
  | .array _ => '['
  | .object _ => '\x7b'

def merged (c : Char) : Char := if Text.isNumeral c then '0' else c

inductive Alike : Json → Json → Prop where
  | null : Alike .null .null
  | bool (value : Bool) : Alike (.bool value) (.bool value)
  | number (text other : String) : Alike (.number text) (.number other)
  | string (text other : String) : Alike (.string text) (.string other)
  | array (items others : List Json) : Alike (.array items) (.array others)
  | object (members others : List (String × Json)) : Alike (.object members) (.object others)

theorem render_opens (value : Json) (proper : value.Proper) :
    ∃ c rest, (render value).toList = c :: rest ∧ merged c = value.opening := by
  cases value with
  | null => exact ⟨_, _, rfl, rfl⟩
  | bool b => cases b <;> exact ⟨_, _, rfl, rfl⟩
  | number text =>
      obtain ⟨some, numeral⟩ := proper
      obtain ⟨c, rest, shape⟩ := List.exists_cons_of_ne_nil some
      refine ⟨c, rest, shape, ?_⟩
      rw [merged, if_pos (numeral c (by simp [shape]))]
      rfl
  | string text => exact ⟨_, _, quote_chars text, rfl⟩
  | array items =>
      cases items with
      | nil => exact ⟨_, _, rfl, rfl⟩
      | cons item items =>
          have shape := array_chars item items []
          rw [List.append_nil] at shape
          exact ⟨_, _, shape, rfl⟩
  | object members =>
      cases members with
      | nil => exact ⟨_, _, rfl, rfl⟩
      | cons member members =>
          have shape := object_chars member.1 member.2 members []
          rw [List.append_nil] at shape
          exact ⟨_, _, shape, rfl⟩

theorem alike_of_opening (a b : Json) (same : a.opening = b.opening) : Alike a b := by
  cases a with
  | null =>
      cases b with
      | null => exact .null
      | bool y => cases y <;> simp [opening] at same
      | _ => simp [opening] at same
  | bool x =>
      cases b with
      | bool y => cases x <;> cases y <;> first | exact .bool _ | simp [opening] at same
      | _ => cases x <;> simp [opening] at same
  | number text =>
      cases b with
      | number other => exact .number text other
      | bool y => cases y <;> simp [opening] at same
      | _ => simp [opening] at same
  | string text =>
      cases b with
      | string other => exact .string text other
      | bool y => cases y <;> simp [opening] at same
      | _ => simp [opening] at same
  | array items =>
      cases b with
      | array others => exact .array items others
      | bool y => cases y <;> simp [opening] at same
      | _ => simp [opening] at same
  | object members =>
      cases b with
      | object others => exact .object members others
      | bool y => cases y <;> simp [opening] at same
      | _ => simp [opening] at same

theorem render_alike (a b : Json) (proper : a.Proper) (proper' : b.Proper) (rest others : List Char)
    (same : (render a).toList ++ rest = (render b).toList ++ others) : Alike a b := by
  obtain ⟨c, text, shape, first⟩ := render_opens a proper
  obtain ⟨d, text', shape', first'⟩ := render_opens b proper'
  rw [shape, shape'] at same
  obtain ⟨rfl, _⟩ := List.cons.inj same
  exact alike_of_opening a b (first.symm.trans first')

end Sorts

def Told (a : Json) : Prop :=
  a.Proper ∧ ∀ (b : Json) (rest others : List Char), b.Proper →
    Text.Stops Text.isNumeral rest → Text.Stops Text.isNumeral others →
    (render a).toList ++ rest = (render b).toList ++ others → a = b ∧ rest = others

section Lists

theorem items_stop (items : List Json) (rest : List Char) :
    Text.Stops Text.isNumeral ((renderItems items).toList ++ ']' :: rest) := by
  cases items with
  | nil => exact Text.stops_cons _ _ _ rfl
  | cons item items =>
      rw [items_chars]
      exact Text.stops_cons _ _ _ rfl

theorem members_stop (members : List (String × Json)) (rest : List Char) :
    Text.Stops Text.isNumeral ((renderMembers members).toList ++ '\x7d' :: rest) := by
  cases members with
  | nil => exact Text.stops_cons _ _ _ rfl
  | cons member members =>
      obtain ⟨name, value⟩ := member
      rw [members_chars]
      exact Text.stops_cons _ _ _ rfl

theorem items_told (items : List Json) (each : ∀ item ∈ items, item.Told) (others : List Json)
    (proper : AllProper others) (rest rest' : List Char)
    (same : (renderItems items).toList ++ ']' :: rest = (renderItems others).toList ++ ']' :: rest') :
    items = others ∧ rest = rest' := by
  induction items generalizing others with
  | nil =>
      cases others with
      | nil => exact ⟨rfl, (List.cons.inj same).2⟩
      | cons other others =>
          rw [items_chars] at same
          exact absurd (List.cons.inj same).1 (by decide)
  | cons item items ih =>
      cases others with
      | nil =>
          rw [items_chars] at same
          exact absurd (List.cons.inj same).1 (by decide)
      | cons other others =>
          rw [items_chars, items_chars] at same
          obtain ⟨rfl, tails⟩ := (each item (by simp)).2 other _ _ proper.1 (items_stop items rest)
            (items_stop others rest') (List.cons.inj same).2
          obtain ⟨rfl, rest⟩ := ih (fun x member => each x (by simp [member])) others proper.2 tails
          exact ⟨rfl, rest⟩

theorem members_told (members : List (String × Json)) (each : ∀ member ∈ members, member.2.Told)
    (others : List (String × Json)) (proper : MembersProper others) (rest rest' : List Char)
    (same : (renderMembers members).toList ++ '\x7d' :: rest = (renderMembers others).toList ++ '\x7d' :: rest') :
    members = others ∧ rest = rest' := by
  induction members generalizing others with
  | nil =>
      cases others with
      | nil => exact ⟨rfl, (List.cons.inj same).2⟩
      | cons other others =>
          obtain ⟨name, value⟩ := other
          rw [members_chars] at same
          exact absurd (List.cons.inj same).1 (by decide)
  | cons member members ih =>
      obtain ⟨name, value⟩ := member
      cases others with
      | nil =>
          rw [members_chars] at same
          exact absurd (List.cons.inj same).1 (by decide)
      | cons other others =>
          obtain ⟨name', value'⟩ := other
          rw [members_chars, members_chars] at same
          obtain ⟨rfl, marked⟩ := quote_unique name name' _ _ (List.cons.inj same).2
          obtain ⟨rfl, tails⟩ := (each (name, value) (by simp)).2 value' _ _ proper.1 (members_stop members rest)
            (members_stop others rest') (List.cons.inj marked).2
          obtain ⟨rfl, rest⟩ := ih (fun x member => each x (by simp [member])) others proper.2 tails
          exact ⟨rfl, rest⟩

theorem render_not_closed (value : Json) (proper : value.Proper) (rest others : List Char)
    (same : (render value).toList ++ rest = ']' :: others) : False := by
  obtain ⟨c, text, shape, first⟩ := render_opens value proper
  rw [shape] at same
  obtain ⟨rfl, _⟩ := List.cons.inj same
  cases value with
  | bool b => cases b <;> exact absurd first (by decide)
  | _ => exact absurd first (by simp [merged, Text.isNumeral, Text.isPointed, opening])

theorem array_told (items : List Json) (each : ∀ item ∈ items, item.Told) (others : List Json)
    (proper : AllProper others) (rest rest' : List Char)
    (same : (render (.array items)).toList ++ rest = (render (.array others)).toList ++ rest') :
    items = others ∧ rest = rest' := by
  cases items with
  | nil =>
      cases others with
      | nil => exact ⟨rfl, List.append_cancel_left same⟩
      | cons other others =>
          rw [array_chars] at same
          exact (render_not_closed other proper.1 _ _ (List.cons.inj same).2.symm).elim
  | cons item items =>
      cases others with
      | nil =>
          rw [array_chars] at same
          exact (render_not_closed item (each item (by simp)).1 _ _ (List.cons.inj same).2).elim
      | cons other others =>
          rw [array_chars, array_chars] at same
          refine items_told (item :: items) each (other :: others) proper rest rest' ?_
          rw [items_chars, items_chars, (List.cons.inj same).2]

theorem object_told (members : List (String × Json)) (each : ∀ member ∈ members, member.2.Told)
    (others : List (String × Json)) (proper : MembersProper others) (rest rest' : List Char)
    (same : (render (.object members)).toList ++ rest = (render (.object others)).toList ++ rest') :
    members = others ∧ rest = rest' := by
  cases members with
  | nil =>
      cases others with
      | nil => exact ⟨rfl, List.append_cancel_left same⟩
      | cons other others =>
          rw [object_chars, quote_chars] at same
          exact absurd (List.cons.inj (List.cons.inj same).2).1 (by decide)
  | cons member members =>
      cases others with
      | nil =>
          rw [object_chars, quote_chars] at same
          exact absurd (List.cons.inj (List.cons.inj same).2).1 (by decide)
      | cons other others =>
          rw [object_chars, object_chars] at same
          refine members_told (member :: members) each (other :: others) proper rest rest' ?_
          rw [members_chars, members_chars, (List.cons.inj same).2]

end Lists

mutual
theorem told (a : Json) (proper : a.Proper) : a.Told := by
  match a with
  | .null =>
      refine ⟨proper, fun b rest others proper' _ _ same => ?_⟩
      cases render_alike _ b proper proper' rest others same with
      | null => exact ⟨rfl, List.append_cancel_left same⟩
  | .bool value =>
      refine ⟨proper, fun b rest others proper' _ _ same => ?_⟩
      cases render_alike _ b proper proper' rest others same with
      | bool => exact ⟨rfl, List.append_cancel_left same⟩
  | .number text =>
      refine ⟨proper, fun b rest others proper' stops stops' same => ?_⟩
      cases render_alike _ b proper proper' rest others same with
      | number _ other =>
          obtain ⟨texts, rest⟩ := Text.run_unique Text.isNumeral _ _ rest others proper.2 proper'.2 stops stops' same
          exact ⟨congrArg Json.number (String.toList_inj.mp texts), rest⟩
  | .string text =>
      refine ⟨proper, fun b rest others proper' _ _ same => ?_⟩
      cases render_alike _ b proper proper' rest others same with
      | string _ other =>
          obtain ⟨rfl, rest⟩ := quote_unique text other rest others same
          exact ⟨rfl, rest⟩
  | .array items =>
      refine ⟨proper, fun b rest others proper' _ _ same => ?_⟩
      cases render_alike _ b proper proper' rest others same with
      | array _ others =>
          obtain ⟨rfl, rest⟩ := array_told items (items_each items proper) others proper' rest _ same
          exact ⟨rfl, rest⟩
  | .object members =>
      refine ⟨proper, fun b rest others proper' _ _ same => ?_⟩
      cases render_alike _ b proper proper' rest others same with
      | object _ others =>
          obtain ⟨rfl, rest⟩ := object_told members (members_each members proper) others proper' rest _ same
          exact ⟨rfl, rest⟩
theorem items_each (items : List Json) (proper : AllProper items) : ∀ item ∈ items, item.Told := by
  match items with
  | [] =>
      intro item member
      cases member
  | item :: rest => exact List.forall_mem_cons.mpr ⟨told item proper.1, items_each rest proper.2⟩
theorem members_each (members : List (String × Json)) (proper : MembersProper members) :
    ∀ member ∈ members, member.2.Told := by
  match members with
  | [] =>
      intro item member
      cases member
  | (_, value) :: rest => exact List.forall_mem_cons.mpr ⟨told value proper.1, members_each rest proper.2⟩
end

theorem render_inj (a b : Json) (proper : a.Proper) (proper' : b.Proper) (same : render a = render b) : a = b := by
  refine ((told a proper).2 b [] [] proper' (Text.stops_nil _) (Text.stops_nil _) ?_).1
  rw [same]

end TokenFilter.Json
