import TokenFilter.Proofs.Chains
import TokenFilter.Proofs.Conformance
import TokenFilter.Proofs.Wordings

set_option autoImplicit false

namespace TokenFilter

namespace Text

theorem identifier_worded (s : String) (identifier : Identifier s) : Worded s.toList :=
  ⟨run_opens _ _ (List.all_eq_true.mp identifier.2) identifier.1, identifier_bare s identifier⟩

theorem worded_dotted (cs ds : List Char) (worded : Worded cs) (bare : ∀ c ∈ ds, isBare c = true) :
    Worded (cs ++ '.' :: ds) := by
  refine ⟨opens_append _ _ _ worded.1, List.forall_mem_append.mpr ⟨worded.2, ?_⟩⟩
  exact List.forall_mem_cons.mpr ⟨rfl, bare⟩

theorem names_worded (names : List String) (somewhere : names ≠ []) (identifiers : ∀ name ∈ names, Identifier name) :
    Worded (".".intercalate names).toList := by
  rw [String.toList_intercalate]
  induction names with
  | nil => exact absurd rfl somewhere
  | cons name rest ih =>
      have first := identifier_worded name (identifiers name List.mem_cons_self)
      cases rest with
      | nil => simpa [List.intercalate] using first
      | cons next others =>
          have later := ih (List.cons_ne_nil _ _) fun other member => identifiers other (List.mem_cons_of_mem _ member)
          have whole := worded_dotted _ _ first later.2
          simpa [List.intercalate] using whole

end Text

section Legible

theorem fields_legible (fields : List Field) (legible : FieldsLegible fields) (field : Field) (member : field ∈ fields) :
    Text.Identifier field.name ∧ field.kind.Legible := by
  induction fields with
  | nil => cases member
  | cons first rest ih =>
      obtain ⟨name, kind, later⟩ := legible
      rcases List.mem_cons.mp member with rfl | inRest
      · exact ⟨name, kind⟩
      · exact ih later inRest

theorem record_legible (kind : Kind) (inner : Schema) (record : kind.RecordOf inner) (legible : kind.Legible) :
    inner.Legible := by
  induction record with
  | plain => exact legible
  | nullable within ih => exact ih legible

theorem item_legible (kind item : Kind) (items : kind.item? = some item) (legible : kind.Legible) : item.Legible := by
  have inner := legible_non_null kind legible
  rw [item_non_null kind item items] at inner
  exact inner

theorem chain_legible (schema : Schema) (segments : List String) (route : Path.Route)
    (chain : Path.Chain schema segments route) (legible : schema.Legible) :
    (∀ name ∈ route.names, Text.Identifier name) ∧ route.kind.Legible := by
  induction chain with
  | last names =>
      obtain ⟨name, kind⟩ := fields_legible _ legible _ (List.mem_of_getElem? names.place)
      exact ⟨List.forall_mem_singleton.mpr name, kind⟩
  | through names record deeper ih =>
      obtain ⟨name, kind⟩ := fields_legible _ legible _ (List.mem_of_getElem? names.place)
      obtain ⟨rest, last⟩ := ih (record_legible _ _ record kind)
      exact ⟨List.forall_mem_cons.mpr ⟨name, rest⟩, last⟩

end Legible

inductive Target.Looks (schema : Schema) : Option Kind → Target → Kind → Prop where
  | field {path : String} {route : Path.Route} (resolved : schema.resolve path = .ok route) :
      Looks schema none (.field route.ref) route.kind
  | item {kind : Kind} (legible : kind.Legible) : Looks schema (some kind) .item kind

section Targets

variable {schema : Schema} (legible : schema.Legible)

theorem looks_told {around : Option Kind} {target other : Target} {kind kind' : Kind}
    (looks : target.Looks schema around kind) (looks' : other.Looks schema around kind')
    (same : target.render.toList = other.render.toList) : target = other ∧ kind = kind' := by
  cases looks with
  | @field path route resolved =>
      cases looks' with
      | @field path' route' resolved' =>
          have paths : route.ref.path = route'.ref.path := String.toList_inj.mp same
          have again := Path.resolve_names schema path route resolved
          rw [paths, Path.resolve_names schema path' route' resolved'] at again
          cases again
          exact ⟨rfl, rfl⟩
  | item =>
      cases looks' with
      | item => exact ⟨rfl, rfl⟩

include legible

theorem looks_worded {around : Option Kind} {target : Target} {kind : Kind} (looks : target.Looks schema around kind) :
    Text.Worded target.render.toList := by
  cases looks with
  | @field path route resolved =>
      have chain := (resolve_chain schema path route).mp resolved
      exact Text.names_worded route.names (Path.chain_somewhere schema _ route chain)
        (chain_legible schema _ route chain legible).1
  | item => exact Text.identifier_worded "it" ⟨by decide, by decide⟩

theorem looks_legible {around : Option Kind} {target : Target} {kind : Kind} (looks : target.Looks schema around kind) :
    kind.Legible := by
  cases looks with
  | @field path route resolved =>
      exact (chain_legible schema _ route ((resolve_chain schema path route).mp resolved) legible).2
  | item inner => exact inner

end Targets

namespace Predicate

-- What a compiled predicate is once its ranges are taken apart, except those of dates, which have a text of their own.
inductive Stated (schema : Schema) : Option Kind → Predicate → Prop where
  | compare {around : Option Kind} {target : Target} {kind : Kind} {cs : List Char} {value : Value}
      (comparison : Comparison) (looks : target.Looks schema around kind) (plain : kind.isText = false)
      (read : kind.readLiteral cs = .ok value) :
      Stated schema around (.compare target comparison value (Policy.ofKind kind))
  | range {around : Option Kind} {target : Target} {kind : Kind} {cs ds : List Char} {low high : Value}
      (looks : target.Looks schema around kind) (plain : kind.isText = false)
      (dated : Policy.ofKind kind = .dateTruncate) (readLow : kind.readLiteral cs = .ok low)
      (readHigh : kind.readLiteral ds = .ok high) :
      Stated schema around (.range target (some low) (some high) .dateTruncate)
  | contains {around : Option Kind} {target : Target} {kind : Kind} (looks : target.Looks schema around kind)
      (s : String) : Stated schema around (.contains target (.text s))
  | function {around : Option Kind} {target : Target} {kind : Kind} (looks : target.Looks schema around kind)
      (fn : TextFunction) (s : String) : Stated schema around (.function target fn (.text s))
  | guarded {around : Option Kind} {target : Target} {kind : Kind} {inner : Predicate}
      (looks : target.Looks schema around kind) (within : Stated schema around inner) :
      Stated schema around (.guarded target inner)
  | not {around : Option Kind} {inner : Predicate} (within : Stated schema around inner) :
      Stated schema around (.not inner)
  | exists {target : Target} {kind item : Kind} {inner : Predicate} (looks : target.Looks schema none kind)
      (items : kind.item? = some item) (within : Stated schema (some item) inner) :
      Stated schema none (.exists target inner)
  | joined {around : Option Kind} {parts : List Predicate} (combination : Combination) (several : 2 ≤ parts.length)
      (each : ∀ part ∈ parts, Stated schema around part) : Stated schema around (combination.join parts)

section Beginnings

variable {schema : Schema} (legible : schema.Legible) {around : Option Kind}
include legible

theorem stated_opens (p : Predicate) (stated : p.Stated schema around) (rest : List Char) :
    Text.Opens isOpening (p.render.toList ++ rest) := by
  have target : ∀ {target kind} more, Target.Looks schema around target kind →
      Text.Opens isOpening (target.render.toList ++ more) := fun more looks =>
    Text.opens_append _ _ _ (word_opens _ (looks_worded legible looks).1)
  cases stated with
  | @compare _ _ kind _ _ comparison looks plain read =>
      rw [compare_chars]
      cases (Policy.ofKind kind).isDated with
      | false => exact target _ looks
      | true => exact ⟨'d', _, rfl, rfl⟩
  | range looks =>
      rw [range_chars]
      exact ⟨'(', _, rfl, rfl⟩
  | contains looks s =>
      rw [contains_chars, List.append_assoc]
      exact target _ looks
  | function looks fn s =>
      rw [function_chars]
      exact ⟨'l', _, rfl, rfl⟩
  | guarded looks within =>
      rw [guarded_chars]
      exact ⟨'(', _, rfl, rfl⟩
  | not within =>
      rw [not_chars]
      exact ⟨'N', _, rfl, rfl⟩
  | «exists» looks items within =>
      rw [exists_chars, List.append_assoc]
      exact target _ looks
  | @joined _ parts combination several each =>
      cases parts with
      | nil => simp at several
      | cons first others =>
          rw [join_chars]
          exact ⟨'(', _, rfl, rfl⟩

theorem form_told (p : Predicate) (stated : p.Stated schema around) (rest : List Char) :
    formOf (p.render.toList ++ rest) = p.form := by
  cases stated with
  | compare comparison looks plain read =>
      rw [compare_chars]
      exact compared_form _ _ _ (looks_worded legible looks).2 (symbol_opens comparison _)
  | range looks =>
      rw [range_chars]
      rfl
  | contains looks s =>
      have bare := bare_before _ _ (looks_worded legible looks).2 (Text.bare_word ".contains" (by decide))
      rw [contains_chars, form_of_word _ _ bare (Text.stops_cons _ _ _ rfl)]
      simp [formAt, form]
  | function looks fn s =>
      rw [function_chars, form_of_word _ _ (Text.bare_word _ (by decide)) (Text.stops_cons _ _ _ rfl)]
      rfl
  | guarded looks within =>
      rw [guarded_chars]
      rfl
  | not within =>
      obtain ⟨c, more, shape, opening⟩ := stated_opens legible _ within rest
      rw [not_chars, form_of_word _ _ (Text.bare_word _ (by decide)) (Text.stops_cons _ _ _ rfl), shape]
      simp [formAt, form, isSign, opening]
  | «exists» looks items within =>
      have bare := bare_before _ _ (looks_worded legible looks).2 (Text.bare_word ".any" (by decide))
      rw [exists_chars, form_of_word _ _ bare (Text.stops_cons _ _ _ rfl)]
      simp [formAt, form]
  | @joined _ parts combination several each =>
      cases parts with
      | nil => simp at several
      | cons first others =>
          rw [join_form, join_chars]
          rfl

theorem form_alike (p q : Predicate) (stated : p.Stated schema around) (stated' : q.Stated schema around)
    (rest others : List Char) (same : p.render.toList ++ rest = q.render.toList ++ others) : p.form = q.form := by
  rw [← form_told legible p stated rest, same, form_told legible q stated']

end Beginnings

def Told (schema : Schema) (around : Option Kind) (p : Predicate) : Prop :=
  ∀ q rest others, q.Stated schema around → Text.Stops Text.isHeld rest → Text.Stops Text.isHeld others →
    p.render.toList ++ rest = q.render.toList ++ others → p = q ∧ rest = others

section Telling

variable {schema : Schema} (legible : schema.Legible) {around : Option Kind} {target target' : Target}
  {kind kind' : Kind} (looks : target.Looks schema around kind) (looks' : target'.Looks schema around kind')
include legible looks looks'

theorem target_then (dated dated' : Bool) (rest others : List Char)
    (same : wrapped dated target.render.toList ++ ' ' :: rest = wrapped dated' target'.render.toList ++ ' ' :: others) :
    dated = dated' ∧ target = target' ∧ kind = kind' ∧ rest = others := by
  obtain ⟨dates, texts, tails⟩ := wrapped_told dated dated' _ _ _ _ (looks_worded legible looks).2
    (looks_worded legible looks').2 (Text.stops_cons _ _ _ rfl) (Text.stops_cons _ _ _ rfl) same
  obtain ⟨targets, kinds⟩ := looks_told looks looks' texts
  exact ⟨dates, targets, kinds, (List.cons.inj tails).2⟩

theorem target_called (suffix rest others : List Char) (bare : ∀ c ∈ suffix, Text.isBare c = true)
    (same : (target.render.toList ++ suffix) ++ '(' :: rest = (target'.render.toList ++ suffix) ++ '(' :: others) :
    target = target' ∧ kind = kind' ∧ rest = others := by
  obtain ⟨words, tails⟩ := Text.run_unique Text.isBare _ _ _ _
    (bare_before _ suffix (looks_worded legible looks).2 bare) (bare_before _ suffix (looks_worded legible looks').2 bare)
    (Text.stops_cons _ _ _ rfl) (Text.stops_cons _ _ _ rfl) same
  obtain ⟨targets, kinds⟩ := looks_told looks looks' (List.append_cancel_right words)
  exact ⟨targets, kinds, (List.cons.inj tails).2⟩

omit looks' in
theorem literal_then (plain : kind.isText = false) (dated dated' : Bool) (cs ds rest others : List Char)
    (value other : Value) (read : kind.readLiteral cs = .ok value) (read' : kind.readLiteral ds = .ok other)
    (stops : Text.Stops Text.isHeld rest) (stops' : Text.Stops Text.isHeld others)
    (same : wrapped dated value.render.toList ++ rest = wrapped dated' other.render.toList ++ others) :
    dated = dated' ∧ value = other ∧ rest = others := by
  have named := looks_legible legible looks
  obtain ⟨dates, texts, tails⟩ := wrapped_told dated dated' _ _ rest others (literal_bare kind named plain cs value read)
    (literal_bare kind named plain ds other read') stops stops' same
  exact ⟨dates, literal_told kind named cs ds value other read read' (String.toList_inj.mp texts), tails⟩

variable (rest others : List Char)

theorem compare_told (plain : kind.isText = false) (cs ds : List Char) (value other : Value)
    (comparison comparison' : Comparison) (read : kind.readLiteral cs = .ok value)
    (read' : kind'.readLiteral ds = .ok other) (stops : Text.Stops Text.isHeld rest)
    (stops' : Text.Stops Text.isHeld others)
    (same : (compare target comparison value (Policy.ofKind kind)).render.toList ++ rest =
      (compare target' comparison' other (Policy.ofKind kind')).render.toList ++ others) :
    compare target comparison value (Policy.ofKind kind) = compare target' comparison' other (Policy.ofKind kind') ∧
      rest = others := by
  rw [compare_chars, compare_chars] at same
  obtain ⟨_, rfl, rfl, afterTarget⟩ := target_then legible looks looks' _ _ _ _ same
  obtain ⟨rfl, afterSymbol⟩ := symbol_told _ _ _ _ afterTarget
  obtain ⟨_, rfl, tails⟩ := literal_then legible looks plain _ _ cs ds rest others value other read read' stops stops'
    afterSymbol
  exact ⟨rfl, tails⟩

theorem range_told (plain : kind.isText = false) (cs ds cs' ds' : List Char) (low high low' high' : Value)
    (readLow : kind.readLiteral cs = .ok low) (readHigh : kind.readLiteral ds = .ok high)
    (readLow' : kind'.readLiteral cs' = .ok low') (readHigh' : kind'.readLiteral ds' = .ok high')
    (same : (range target (some low) (some high) .dateTruncate).render.toList ++ rest =
      (range target' (some low') (some high') .dateTruncate).render.toList ++ others) :
    range target (some low) (some high) .dateTruncate = range target' (some low') (some high') .dateTruncate ∧
      rest = others := by
  rw [range_chars, range_chars] at same
  obtain ⟨_, rfl, rfl, afterTarget⟩ := target_then legible looks looks' _ _ _ _ (List.cons.inj same).2
  have lower := (List.cons.inj (List.append_cancel_left afterTarget)).2
  obtain ⟨_, rfl, afterLower⟩ := literal_then legible looks plain false false cs cs' _ _ low low' readLow readLow'
    (Text.stops_cons _ _ _ rfl) (Text.stops_cons _ _ _ rfl) lower
  have upper := List.append_cancel_left (List.append_cancel_left (List.cons.inj afterLower).2)
  have higher := (List.cons.inj (List.append_cancel_left (List.cons.inj upper).2)).2
  obtain ⟨_, rfl, afterUpper⟩ := literal_then legible looks plain false false ds ds' _ _ high high' readHigh readHigh'
    (Text.stops_cons _ _ _ rfl) (Text.stops_cons _ _ _ rfl) higher
  exact ⟨rfl, (List.cons.inj afterUpper).2⟩

theorem contains_told (s t : String)
    (same : (contains target (.text s)).render.toList ++ rest = (contains target' (.text t)).render.toList ++ others) :
    contains target (.text s) = contains target' (.text t) ∧ rest = others := by
  rw [contains_chars, contains_chars] at same
  obtain ⟨rfl, _, texts⟩ := target_called legible looks looks' _ _ _ (Text.bare_word _ (by decide)) same
  obtain ⟨rfl, tails⟩ := Text.quoted_unique s t _ _ texts
  exact ⟨rfl, (List.cons.inj tails).2⟩

theorem function_told (fn fn' : TextFunction) (s t : String)
    (same : (function target fn (.text s)).render.toList ++ rest =
      (function target' fn' (.text t)).render.toList ++ others) :
    function target fn (.text s) = function target' fn' (.text t) ∧ rest = others := by
  rw [function_chars, function_chars] at same
  obtain ⟨words, called⟩ := Text.run_unique Text.isBare _ _ _ _ (looks_worded legible looks).2
    (looks_worded legible looks').2 (Text.stops_cons _ _ _ rfl) (Text.stops_cons _ _ _ rfl)
    (List.cons.inj (List.append_cancel_left same)).2
  obtain ⟨rfl, _⟩ := looks_told looks looks' words
  obtain ⟨rfl, arguments⟩ := function_name_told fn fn' _ _ (List.cons.inj (List.cons.inj called).2).2
  obtain ⟨rfl, tails⟩ := Text.quoted_unique s t _ _ (List.append_cancel_left arguments)
  exact ⟨rfl, (List.cons.inj (List.cons.inj tails).2).2⟩

theorem guarded_told (inner inner' : Predicate) (told : inner.Told schema around) (stated : inner'.Stated schema around)
    (same : (guarded target inner).render.toList ++ rest = (guarded target' inner').render.toList ++ others) :
    guarded target inner = guarded target' inner' ∧ rest = others := by
  rw [guarded_chars, guarded_chars] at same
  obtain ⟨_, rfl, _, afterTarget⟩ := target_then legible looks looks' false false _ _ (List.cons.inj same).2
  have within := List.append_cancel_left (List.cons.inj afterTarget).2
  obtain ⟨rfl, tails⟩ := told inner' _ _ stated (Text.stops_cons _ _ _ rfl) (Text.stops_cons _ _ _ rfl) within
  exact ⟨rfl, (List.cons.inj tails).2⟩

end Telling

section Searching

variable {schema : Schema} (legible : schema.Legible) {target target' : Target} {kind kind' item item' : Kind}
  (looks : target.Looks schema none kind) (looks' : target'.Looks schema none kind') (items : kind.item? = some item)
  (items' : kind'.item? = some item')
include legible looks looks' items items'

theorem exists_told (inner inner' : Predicate) (told : inner.Told schema (some item))
    (stated : inner'.Stated schema (some item')) (rest others : List Char)
    (same : (Predicate.exists target inner).render.toList ++ rest =
      (Predicate.exists target' inner').render.toList ++ others) :
    Predicate.exists target inner = Predicate.exists target' inner' ∧ rest = others := by
  rw [exists_chars, exists_chars] at same
  obtain ⟨rfl, rfl, within⟩ := target_called legible looks looks' _ _ _ (Text.bare_word _ (by decide)) same
  cases items.symm.trans items'
  obtain ⟨rfl, tails⟩ := told inner' _ _ stated (Text.stops_cons _ _ _ rfl) (Text.stops_cons _ _ _ rfl)
    (List.append_cancel_left within)
  exact ⟨rfl, (List.cons.inj tails).2⟩

end Searching

section Joining

variable {schema : Schema} {around : Option Kind}

theorem parts_told (combination combination' : Combination) (parts others : List Predicate) (rest rest' : List Char)
    (told : ∀ part ∈ parts, part.Told schema around) (stated : ∀ part ∈ others, part.Stated schema around)
    (same : joinedChars combination parts ++ ')' :: rest = joinedChars combination' others ++ ')' :: rest') :
    parts = others ∧ rest = rest' ∧ (parts ≠ [] → combination = combination') := by
  induction parts generalizing others with
  | nil =>
      cases others with
      | nil => exact ⟨rfl, (List.cons.inj same).2, fun some => absurd rfl some⟩
      | cons other others =>
          rw [joined_cons] at same
          cases combination' <;> exact absurd (List.cons.inj same).1 (by decide)
  | cons part parts ih =>
      cases others with
      | nil =>
          rw [joined_cons] at same
          cases combination <;> exact absurd (List.cons.inj same).1 (by decide)
      | cons other others =>
          rw [joined_cons, joined_cons] at same
          obtain ⟨rfl, afterWord⟩ := between_told combination combination' _ _ same
          obtain ⟨rfl, tails⟩ := told part List.mem_cons_self other _ _ (stated other List.mem_cons_self)
            (joined_stops _ _ _) (joined_stops _ _ _) afterWord
          obtain ⟨rfl, ends, _⟩ := ih others (fun x member => told x (List.mem_cons_of_mem _ member))
            (fun x member => stated x (List.mem_cons_of_mem _ member)) tails
          exact ⟨rfl, ends, fun _ => rfl⟩

theorem join_told (combination combination' : Combination) (parts others : List Predicate) (rest rest' : List Char)
    (several : 2 ≤ parts.length) (several' : 2 ≤ others.length) (told : ∀ part ∈ parts, part.Told schema around)
    (stated : ∀ part ∈ others, part.Stated schema around)
    (same : (combination.join parts).render.toList ++ rest = (combination'.join others).render.toList ++ rest') :
    combination.join parts = combination'.join others ∧ rest = rest' := by
  match parts, others with
  | first :: second :: parts, first' :: others =>
      rw [join_chars, join_chars] at same
      obtain ⟨rfl, tails⟩ := told first List.mem_cons_self first' _ _ (stated first' List.mem_cons_self)
        (joined_stops _ _ _) (joined_stops _ _ _) (List.cons.inj same).2
      obtain ⟨rfl, ends, words⟩ := parts_told combination combination' (second :: parts) others rest rest'
        (fun x member => told x (List.mem_cons_of_mem _ member))
        (fun x member => stated x (List.mem_cons_of_mem _ member)) tails
      rw [words (List.cons_ne_nil _ _)]
      exact ⟨rfl, ends⟩

end Joining

section Groups

variable {schema : Schema} (legible : schema.Legible) {around : Option Kind} {target : Target} {kind : Kind}
  (looks : target.Looks schema around kind)
include legible

theorem compared_start (p : Predicate) (stated : p.Stated schema around) (dated : Bool) (cs rest others : List Char)
    (bare : ∀ c ∈ cs, Text.isBare c = true) (signed : Text.Opens isSign others)
    (same : p.render.toList ++ rest = wrapped dated cs ++ ' ' :: others) :
    ∃ (comparison : Comparison) (shown : List Char), (∀ c ∈ shown, Text.isBare c = true) ∧
      comparison.symbol.toList ++ ' ' :: (wrapped dated shown ++ rest) = others := by
  have form := form_told legible p stated rest
  rw [same, compared_form dated cs others bare signed] at form
  cases stated with
  | @compare _ target kind cs value comparison looks plain read =>
      rw [compare_chars] at same
      obtain ⟨dates, _, tails⟩ := wrapped_told _ _ _ _ _ _ (looks_worded legible looks).2 bare
        (Text.stops_cons _ _ _ rfl) (Text.stops_cons _ _ _ rfl) same
      rw [dates] at tails
      exact ⟨comparison, _, literal_bare kind (looks_legible legible looks) plain cs value read, (List.cons.inj tails).2⟩
  | joined combination => cases combination <;> cases form
  | _ => cases form

include looks

theorem join_not_guarded (combination : Combination) (parts : List Predicate) (several : 2 ≤ parts.length)
    (stated : ∀ part ∈ parts, part.Stated schema around) (inner : Predicate) (rest others : List Char)
    (same : (combination.join parts).render.toList ++ rest = (guarded target inner).render.toList ++ others) : False := by
  cases parts with
  | nil => simp at several
  | cons first parts =>
      rw [join_chars, guarded_chars] at same
      obtain ⟨comparison, shown, _, signs⟩ := compared_start legible first (stated first List.mem_cons_self) false _ _ _
        (looks_worded legible looks).2 ⟨'!', _, rfl, by decide⟩ (List.cons.inj same).2
      cases comparison <;> exact absurd (List.cons.inj signs).1 (by decide)

-- The bounds of a range of dates are not shown as dates, as they are in a comparison.
theorem join_not_range (combination : Combination) (parts : List Predicate) (several : 2 ≤ parts.length)
    (stated : ∀ part ∈ parts, part.Stated schema around) (plain : kind.isText = false) (cs : List Char) (low high : Value)
    (read : kind.readLiteral cs = .ok low) (rest others : List Char)
    (same : (combination.join parts).render.toList ++ rest =
      (range target (some low) (some high) .dateTruncate).render.toList ++ others) : False := by
  cases parts with
  | nil => simp at several
  | cons first parts =>
      rw [join_chars, range_chars] at same
      obtain ⟨comparison, shown, bare, signs⟩ := compared_start legible first (stated first List.mem_cons_self) true _ _ _
        (looks_worded legible looks).2 (symbol_opens .gte _) (List.cons.inj same).2
      obtain ⟨_, literals⟩ := symbol_told comparison .gte _ _ signs
      obtain ⟨dates, _⟩ := wrapped_told true false _ _ _ _ bare
        (literal_bare kind (looks_legible legible looks) plain cs low read) (joined_stops _ _ _)
        (Text.stops_cons _ _ _ rfl) literals
      cases dates

theorem range_not_guarded {target' : Target} {kind' : Kind} (looks' : target'.Looks schema around kind')
    (low high : Value) (inner : Predicate) (rest others : List Char)
    (same : (range target (some low) (some high) .dateTruncate).render.toList ++ rest =
      (guarded target' inner).render.toList ++ others) : False := by
  rw [range_chars, guarded_chars] at same
  obtain ⟨dates, _⟩ := target_then legible looks looks' true false _ _ (List.cons.inj same).2
  cases dates

end Groups

theorem stated_told {schema : Schema} (legible : schema.Legible) {around : Option Kind} (p : Predicate)
    (stated : p.Stated schema around) : p.Told schema around := by
  -- In each case the form of the text leaves one node to compare with, or one of the three that stand in brackets.
  induction stated with
  | compare comparison looks plain read =>
      intro q rest others stated' stops stops' same
      have form := form_alike legible _ q (.compare comparison looks plain read) stated' rest others same
      cases stated' with
      | compare comparison' looks' _ read' =>
          exact compare_told legible looks looks' rest others plain _ _ _ _ _ _ read read' stops stops' same
      | joined combination => cases combination <;> cases form
      | _ => cases form
  | range looks plain dated readLow readHigh =>
      intro q rest others stated' stops stops' same
      have form := form_alike legible _ q (.range looks plain dated readLow readHigh) stated' rest others same
      cases stated' with
      | range looks' _ _ readLow' readHigh' =>
          exact range_told legible looks looks' rest others plain _ _ _ _ _ _ _ _ readLow readHigh readLow' readHigh' same
      | guarded looks' _ => exact (range_not_guarded legible looks looks' _ _ _ _ _ same).elim
      | joined combination several each =>
          exact (join_not_range legible looks combination _ several each plain _ _ _ readLow _ _ same.symm).elim
      | _ => cases form
  | contains looks s =>
      intro q rest others stated' stops stops' same
      have form := form_alike legible _ q (.contains looks s) stated' rest others same
      cases stated' with
      | contains looks' t => exact contains_told legible looks looks' rest others s t same
      | joined combination => cases combination <;> cases form
      | _ => cases form
  | function looks fn s =>
      intro q rest others stated' stops stops' same
      have form := form_alike legible _ q (.function looks fn s) stated' rest others same
      cases stated' with
      | function looks' fn' t => exact function_told legible looks looks' rest others fn fn' s t same
      | joined combination => cases combination <;> cases form
      | _ => cases form
  | guarded looks within ih =>
      intro q rest others stated' stops stops' same
      have form := form_alike legible _ q (.guarded looks within) stated' rest others same
      cases stated' with
      | guarded looks' within' => exact guarded_told legible looks looks' rest others _ _ ih within' same
      | range looks' => exact (range_not_guarded legible looks' looks _ _ _ _ _ same.symm).elim
      | joined combination several each =>
          exact (join_not_guarded legible looks combination _ several each _ _ _ same.symm).elim
      | _ => cases form
  | not within ih =>
      intro q rest others stated' stops stops' same
      have form := form_alike legible _ q (.not within) stated' rest others same
      cases stated' with
      | not within' =>
          rw [not_chars, not_chars] at same
          obtain ⟨rfl, tails⟩ := ih _ _ _ within' stops stops' (List.cons.inj (List.append_cancel_left same)).2
          exact ⟨rfl, tails⟩
      | joined combination => cases combination <;> cases form
      | _ => cases form
  | «exists» looks items within ih =>
      intro q rest others stated' stops stops' same
      have form := form_alike legible _ q (.exists looks items within) stated' rest others same
      cases stated' with
      | «exists» looks' items' within' =>
          exact exists_told legible looks looks' items items' _ _ ih within' rest others same
      | joined combination => cases combination <;> cases form
      | _ => cases form
  | joined combination several each ih =>
      intro q rest others stated' stops stops' same
      have form := form_alike legible _ q (.joined combination several each) stated' rest others same
      rw [join_form] at form
      cases stated' with
      | joined combination' several' each' =>
          exact join_told combination combination' _ _ rest others several several' ih each' same
      | range looks' plain _ readLow _ =>
          exact (join_not_range legible looks' combination _ several each plain _ _ _ readLow _ _ same).elim
      | guarded looks' _ => exact (join_not_guarded legible looks' combination _ several each _ _ _ same).elim
      | _ => cases form

theorem stated_render_inj {schema : Schema} (legible : schema.Legible) {around : Option Kind}
    (p q : Predicate) (stated : p.Stated schema around) (stated' : q.Stated schema around) (same : p.render = q.render) :
    p = q :=
  (stated_told legible p stated q [] [] stated' (Text.stops_nil _) (Text.stops_nil _) (by rw [same])).1

end Predicate

end TokenFilter
