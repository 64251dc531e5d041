import TokenFilter.Proofs.Chains

set_option autoImplicit false

namespace TokenFilter

section Tables

variable {ρ κ ν τ α : Type} [BEq κ] [LawfulBEq κ]

-- What is found is kept under its key; what is not found leaves the table as it is.
def findKept (key : ρ → κ) (search : ρ → Option ν) (table : List (κ × ν)) (request : ρ) : Option ν × List (κ × ν) :=
  match table.lookup (key request) with
  | some found => (some found, table)
  | none =>
    match search request with
    | some found => (some found, (key request, found) :: table)
    | none => (none, table)

def answerAll (answer : τ → ρ → α × τ) (table : τ) : List ρ → List α × τ
  | [] => ([], table)
  | request :: rest =>
    let first := answer table request
    let others := answerAll answer first.2 rest
    (first.1 :: others.1, others.2)

def Faithful (key : ρ → κ) (search : ρ → Option ν) (known : ρ → Prop) (table : List (κ × ν)) : Prop :=
  ∀ request, known request → ∀ found, (key request, found) ∈ table → search request = some found

theorem lookup_listed (table : List (κ × ν)) (key : κ) (found : ν) (kept : table.lookup key = some found) :
    (key, found) ∈ table := by
  obtain ⟨before, after, split, _⟩ := List.lookup_eq_some_iff.mp kept
  rw [split]
  simp

theorem find_kept_faithful (key : ρ → κ) (search : ρ → Option ν) (known : ρ → Prop)
    (tell : ∀ one other, known one → known other → key one = key other → search one = search other)
    (table : List (κ × ν)) (request : ρ) (asked : known request) (faithful : Faithful key search known table) :
    (findKept key search table request).1 = search request ∧
      Faithful key search known (findKept key search table request).2 := by
  unfold findKept
  cases kept : table.lookup (key request) with
  | some found => exact ⟨(faithful request asked found (lookup_listed table _ found kept)).symm, faithful⟩
  | none =>
      cases searched : search request with
      | none => exact ⟨rfl, faithful⟩
      | some found =>
          refine ⟨rfl, ?_⟩
          intro other another line listed
          rcases List.mem_cons.mp listed with new | old
          · obtain ⟨same, rfl⟩ := Prod.mk.inj new
            rw [tell other request another asked same, searched]
          · exact faithful other another line old

theorem answer_all (answer : τ → ρ → α × τ) (expected : ρ → α) (Kept : τ → Prop) (requests : List ρ)
    (each : ∀ table, ∀ request ∈ requests, Kept table →
      (answer table request).1 = expected request ∧ Kept (answer table request).2)
    (table : τ) (kept : Kept table) : (answerAll answer table requests).1 = requests.map expected := by
  -- What every answer keeps of the table holds whatever was asked before.
  induction requests generalizing table with
  | nil => rfl
  | cons request rest ih =>
      obtain ⟨here, still⟩ := each table request List.mem_cons_self kept
      have later := ih (fun table other member => each table other (List.mem_cons_of_mem request member)) _ still
      rw [answerAll, List.map_cons, here, later]

-- Each of them is told from the others by its path.
def Tells (path : α → String) (all : List α) : Prop :=
  ∀ one ∈ all, ∀ other ∈ all, path one = path other → one = other

end Tables

abbrev SlotTable := List ((String × String) × Nat)

namespace SlotTable

def key (request : Schema × String) : String × String := (request.1.path, Path.key request.2)

-- As nothing is kept of a name that no field has, no query makes the table grow beyond the names of fields.
def lookUp (table : SlotTable) (request : Schema × String) : Option Nat × SlotTable :=
  findKept key (fun request => request.1.slotNamed? (Path.key request.2)) table request

def lookUpAll (table : SlotTable) (requests : List (Schema × String)) : List (Option Nat) × SlotTable :=
  answerAll lookUp table requests

def PathsTell (schemas : List Schema) : Prop := Tells SchemaOf.path schemas

theorem looked_up (schemas : List Schema) (tell : PathsTell schemas) (requests : List (Schema × String))
    (known : ∀ request ∈ requests, request.1 ∈ schemas) :
    (lookUpAll [] requests).1 = requests.map fun request => request.1.slot? request.2 := by
  apply answer_all lookUp _ (Faithful key _ fun request => request.1 ∈ schemas)
  · intro table request member faithful
    refine find_kept_faithful key _ _ ?_ table request (known request member) faithful
    intro one other inside inside' same
    obtain ⟨path, segment⟩ := Prod.mk.inj same
    rw [tell one.1 inside other.1 inside' path, segment]
  · intro request _ found listed
    cases listed

end SlotTable

-- The members of an enumeration by their keys, of those with one key the last one first.
def KeyedOf.index (k : Keyed) : List (Key × Member) :=
  k.members.foldl (fun index member => (member.key, member) :: index) []

abbrev MemberTable := List (String × List (Key × Member))

namespace MemberTable

def lookUp (table : MemberTable) (request : Keyed × Key) : Option Member × MemberTable :=
  let found := findKept KeyedOf.path (fun k => some k.index) table request.1
  (found.1.bind fun index => index.lookup request.2, found.2)

def lookUpAll (table : MemberTable) (requests : List (Keyed × Key)) : List (Option Member) × MemberTable :=
  answerAll lookUp table requests

def PathsTell (enumerations : List Keyed) : Prop := Tells KeyedOf.path enumerations

theorem index_members (k : Keyed) : k.index = k.members.reverse.map fun member => (member.key, member) := by
  have pushed : ∀ (members : List Member) index,
      members.foldl (fun index member => (member.key, member) :: index) index =
        members.reverse.map (fun member => (member.key, member)) ++ index := by
    intro members
    induction members with
    | nil => exact fun _ => rfl
    | cons member rest ih =>
        intro index
        rw [List.foldl_cons, ih, List.reverse_cons, List.map_append, List.append_assoc]
        rfl
  rw [KeyedOf.index, pushed, List.append_nil]

theorem lookup_index (k : Keyed) (key : Key) : k.index.lookup key = k.keyed? key := by
  rw [index_members, KeyedOf.keyed?]
  induction k.members.reverse with
  | nil => rfl
  | cons member rest ih =>
      rw [List.map_cons, List.lookup_cons, List.find?_cons, ih, BEq.comm]

theorem members_looked_up (enumerations : List Keyed) (tell : PathsTell enumerations) (requests : List (Keyed × Key))
    (known : ∀ request ∈ requests, request.1 ∈ enumerations) :
    (lookUpAll [] requests).1 = requests.map fun request => request.1.keyed? request.2 := by
  have same : ∀ one other, one ∈ enumerations → other ∈ enumerations → one.path = other.path →
      some one.index = some other.index := by
    intro one other inside inside' path
    rw [tell one inside other inside' path]
  apply answer_all lookUp _ (Faithful KeyedOf.path (fun k => some k.index) (· ∈ enumerations))
  · intro table request member faithful
    obtain ⟨found, kept⟩ := find_kept_faithful KeyedOf.path _ _ same table request.1 (known request member) faithful
    refine ⟨?_, kept⟩
    rw [lookUp, found, Option.bind_some, lookup_index]
  · intro k _ found listed
    cases listed

-- The second lookup finds the members of the first enumeration kept, and the last of two with one key.
example :
    let status : Keyed := ⟨"Status", .int, [⟨"Open", .int 1⟩, ⟨"Done", .int 2⟩, ⟨"Shut", .int 2⟩]⟩
    let color : Keyed := ⟨"Color", .text, [⟨"Red", .text "r"⟩]⟩
    let found := lookUpAll [] [(status, .int 1), (status, .int 2), (color, .text "r"), (color, .int 2)]
    found.1 = [some ⟨"Open", .int 1⟩, some ⟨"Shut", .int 2⟩, some ⟨"Red", .text "r"⟩, none] ∧ found.2.length = 2 := by
  decide +kernel

end MemberTable

namespace SchemaOf

theorem slot_trimmed (schema : Schema) (segment : String) :
    schema.slot? segment = schema.slotNamed? (Text.trimmed segment) := by
  rw [slot?, slotNamed?, slotNamed?, Text.folded_folded]

theorem slot_iff (schema : Schema) (segment : String) (slot : Nat) :
    schema.slot? segment = some slot ↔ ∃ field, schema.Names segment slot field := by
  constructor
  · intro found
    have place := List.getElem?_eq_getElem (schema.slot_in_fields segment slot found)
    exact ⟨_, (schema.slot_some_iff segment slot _ place).mp found⟩
  · rintro ⟨field, names⟩
    exact (schema.slot_some_iff segment slot field names.place).mpr names

theorem slot_alike (schema : Schema) (segment other : String) (same : Path.key segment = Path.key other) :
    schema.slot? segment = schema.slot? other := congrArg schema.slotNamed? same

end SchemaOf

-- The short cut for ASCII is lower case, and folding twice is folding once. So a segment leads to the first field whose
-- name it is but for white space around it and case, whether it is folded before the search or not, and whatever was
-- found before, where the path of a schema tells it from the others.
theorem slots_looked_up (schemas : List Schema) (tell : SlotTable.PathsTell schemas) :
    (∀ cs, cs.all Text.isAscii = true → Text.fold cs = cs.map Char.toLower ∧ cs.map Char.toLower = Text.lower cs) ∧
    (∀ s, Text.folded (Text.folded s) = Text.folded s) ∧
    (∀ (schema : Schema) segment,
      schema.slot? segment = schema.slotNamed? (Text.trimmed segment) ∧
        (∀ slot, schema.slot? segment = some slot ↔ ∃ field, schema.Names segment slot field) ∧
        ∀ other, Path.key segment = Path.key other → schema.slot? segment = schema.slot? other) ∧
    ∀ requests : List (Schema × String), (∀ request ∈ requests, request.1 ∈ schemas) →
      (SlotTable.lookUpAll [] requests).1 =
        requests.map fun request => request.1.slotNamed? (Text.trimmed request.2) := by
  refine ⟨?_, Text.folded_folded, ?_, ?_⟩
  · intro cs ascii
    exact ⟨if_pos ascii, (Text.lower_ascii [] cs ascii).symm⟩
  · intro schema segment
    exact ⟨schema.slot_trimmed segment, schema.slot_iff segment, schema.slot_alike segment⟩
  · intro requests known
    rw [SlotTable.looked_up schemas tell requests known]
    exact List.map_congr_left fun request _ => request.1.slot_trimmed request.2

theorem slots_looked_up_of_people :
    let people : Schema := ⟨"people", "Person", [⟨"Key", .int⟩, ⟨"KEY", .text⟩, ⟨"ΟΔΟΣ", .text⟩]⟩
    let homes : Schema := ⟨"homes", "Home", [⟨"οδος", .text⟩, ⟨"key", .int⟩]⟩
    let requests := [(people, " \u212aEY "), (homes, "\u212aey"), (people, "key"), (people, "οδοσ"), (people, "οδος"),
      (homes, "ΟΔΟΣ"), (people, "street")]
    SlotTable.PathsTell [people, homes] ∧ (∀ request ∈ requests, request.1 ∈ [people, homes]) ∧
      (SlotTable.lookUpAll [] requests).1 = [some 0, some 1, some 0, none, some 2, some 0, none] ∧
      (SlotTable.lookUpAll [] requests).1 =
        requests.map fun request => request.1.slotNamed? (Text.trimmed request.2) := by
  intro people homes requests
  have tell : SlotTable.PathsTell [people, homes] := by
    intro one inside other inside' same
    rcases List.mem_pair.mp inside with rfl | rfl <;> rcases List.mem_pair.mp inside' with rfl | rfl
    · rfl
    · exact absurd same (by decide)
    · exact absurd same (by decide)
    · rfl
  have known : ∀ request ∈ requests, request.1 ∈ [people, homes] := by
    simp [requests]
  exact ⟨tell, known, by decide +kernel, (slots_looked_up [people, homes] tell).2.2.2 requests known⟩

end TokenFilter
