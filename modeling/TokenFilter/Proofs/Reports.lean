import TokenFilter.Proofs.Rejection
import TokenFilter.Proofs.Shape

set_option autoImplicit false

namespace TokenFilter

namespace Logged

variable {ω ε α β : Type}

theorem events_bind_ok (x : Logged ω ε α) (next : α → Logged ω ε β) (a : α) (passed : x.result = .ok a) :
    (x >>= next).events = x.events ++ (next a).events := by
  change (Logged.bind x next).events = _
  simp only [Logged.bind, passed]

theorem events_bind_error (x : Logged ω ε α) (next : α → Logged ω ε β) (e : ε) (failed : x.result = .error e) :
    (x >>= next).events = x.events := by
  change (Logged.bind x next).events = _
  simp only [Logged.bind, failed]

theorem events_map (x : Logged ω ε α) (f : α → β) : (f <$> x).events = x.events := by
  rw [← bind_pure_comp]
  cases outcome : x.result with
  | error e => exact events_bind_error x _ e outcome
  | ok a => rw [events_bind_ok x _ a outcome, show (pure (f a) : Logged ω ε β).events = [] from rfl, List.append_nil]

theorem events_cons_ok (f : α → Logged ω ε β) (x : α) (xs : List α) (b : β) (passed : (f x).result = .ok b) :
    ((x :: xs).mapM f).events = (f x).events ++ (xs.mapM f).events := by
  rw [List.mapM_cons, events_bind_ok _ _ b passed, bind_pure_comp, events_map]

theorem events_cons_error (f : α → Logged ω ε β) (x : α) (xs : List α) (e : ε) (failed : (f x).result = .error e) :
    ((x :: xs).mapM f).events = (f x).events := by
  rw [List.mapM_cons, events_bind_error _ _ e failed]

theorem events_passed (f : α → Logged ω ε β) (xs : List α) (passed : ∀ x ∈ xs, ∃ b, (f x).result = .ok b) :
    (xs.mapM f).events = xs.flatMap fun x => (f x).events := by
  induction xs with
  | nil => rfl
  | cons x xs ih =>
      obtain ⟨b, first⟩ := passed x List.mem_cons_self
      rw [events_cons_ok f x xs b first, ih fun y member => passed y (List.mem_cons_of_mem x member), List.flatMap_cons]

theorem events_failed (f : α → Logged ω ε β) (before : List α) (x : α) (after : List α) (e : ε)
    (passed : ∀ y ∈ before, ∃ b, (f y).result = .ok b) (failed : (f x).result = .error e) :
    ((before ++ x :: after).mapM f).events = before.flatMap (fun y => (f y).events) ++ (f x).events := by
  induction before with
  | nil => exact events_cons_error f x after e failed
  | cons y before ih =>
      obtain ⟨b, first⟩ := passed y List.mem_cons_self
      rw [List.cons_append, events_cons_ok f y _ b first, List.flatMap_cons, List.append_assoc,
        ih fun z member => passed z (List.mem_cons_of_mem y member)]

end Logged

def Kind.fault? (kind : Kind) (cs : List Char) : Option Dropped :=
  match kind.readLiteral cs with
  | .ok _ => none
  | .error fault => some (.unreadable kind (String.ofList cs) fault)

def Token.fault? (kind : Kind) : Token → Option Dropped
  | .not inner => inner.fault? kind
  | .range none none => some .boundless
  | .range lower upper => (lower.bind kind.fault?).or (upper.bind kind.fault?)
  | .function _ _ => none
  | .literal cs => kind.fault? cs

def tokenEvents (field : String) (kind : Kind) (text : String) : List Event :=
  match (Token.read (.ofKind kind) text).toOption.bind (Token.fault? kind) with
  | none => []
  | some why => [why.event, .tokenDropped field text]

def Kind.asks (kind : Kind) (text : String) : Bool :=
  (Token.read (.ofKind kind) text).toOption.any (Token.survives kind)

def SchemaOf.entryEvents (schema : Schema) (field : Field) (entry : Entry) : List Event :=
  match schema.resolve entry.path with
  | .error _ => []
  | .ok route =>
    entry.tokens.flatMap (tokenEvents field.name route.kind.leaf) ++
      if entry.tokens.any route.kind.leaf.asks then [] else [.emptyField schema.path entry.path]

theorem read_or_drop_error (kind : Kind) (cs : List Char) (why : Dropped) :
    kind.readOrDrop cs = .error why ↔ kind.fault? cs = some why := by
  unfold Kind.readOrDrop Kind.fault?
  cases kind.readLiteral cs <;> simp [Except.mapError]

theorem read_or_drop_ok (kind : Kind) (cs : List Char) (value : Value) (read : kind.readOrDrop cs = .ok value) :
    kind.fault? cs = none := by
  cases fault : kind.fault? cs with
  | none => rfl
  | some why => cases read.symm.trans ((read_or_drop_error kind cs why).mpr fault)

theorem fault_none_iff (kind : Kind) (cs : List Char) : kind.fault? cs = none ↔ kind.reads cs = true := by
  unfold Kind.fault? Kind.reads
  cases kind.readLiteral cs <;> simp [Except.toOption]

namespace Token

theorem fault_is_none (kind : Kind) (token : Token) : (token.fault? kind).isNone = token.survives kind := by
  rw [Bool.eq_iff_iff, Option.isNone_iff_eq_none]
  induction token with
  | not inner ih => exact ih
  | range lower upper =>
      cases lower <;> cases upper <;>
        simp [fault?, survives, fault_none_iff, Option.or_eq_none_iff]
  | function fn argument => simp [fault?, survives]
  | literal cs => exact fault_none_iff kind cs

theorem predicate_error_iff (kind : Kind) (target : Target) (token : Token) (why : Dropped) :
    token.predicate kind target = .error why ↔ token.fault? kind = some why := by
  induction token with
  | not inner ih => rw [predicate, except_map_error_iff, ih, fault?]
  | range lower upper =>
      rw [predicate, except_map_error_iff]
      cases lower with
      | none =>
          cases upper with
          | none => simp [Kind.rangeLeaf, fault?]
          | some upper => simp [Kind.rangeLeaf, fault?, except_map_error_iff, read_or_drop_error]
      | some lower =>
          cases upper with
          | none => simp [Kind.rangeLeaf, fault?, except_map_error_iff, read_or_drop_error]
          | some upper =>
              cases low : kind.readOrDrop lower with
              | error other =>
                  have fault := (read_or_drop_error kind lower other).mp low
                  simp [Kind.rangeLeaf, fault?, low, fault, Except.bind]
              | ok value =>
                  have fine := read_or_drop_ok kind lower value low
                  simp [Kind.rangeLeaf, fault?, low, fine, Except.bind, except_map_error_iff, read_or_drop_error]
  | function fn argument => simp [predicate, fault?]
  | literal cs => rw [predicate, except_map_error_iff, read_or_drop_error, fault?]

end Token

theorem compile_token_events (field : String) (kind : Kind) (target : Target) (text : String) :
    (compileToken field kind target text).events = tokenEvents field kind text := by
  unfold compileToken tokenEvents
  cases read : Token.read (.ofKind kind) text with
  | error e => rfl
  | ok token =>
      have reason := token.predicate_error_iff kind target
      rw [Logged.events_bind_ok _ _ token rfl]
      cases built : token.predicate kind target with
      | ok p =>
          have silent : token.fault? kind = none := by
            cases fault : token.fault? kind with
            | none => rfl
            | some why => cases built.symm.trans ((reason why).mpr fault)
          simp only [Except.toOption, Option.bind_some, silent]
          rfl
      | error why =>
          simp only [Except.toOption, Option.bind_some, (reason why).mp built]
          rfl

theorem compile_tokens_events (field : String) (kind : Kind) (target : Target) (texts : List String) :
    (compileTokens field kind target texts).events = (texts.mapM (compileToken field kind target)).events := by
  unfold compileTokens
  rw [bind_pure_comp, Logged.events_map]

theorem compile_token_passes (field : String) (kind : Kind) (target : Target) (texts : List String)
    (passed : ∀ text ∈ texts, ∃ token, Token.read (.ofKind kind) text = .ok token) :
    ∀ text ∈ texts, ∃ built, (compileToken field kind target text).result = .ok built := by
  intro text given
  obtain ⟨token, read⟩ := passed text given
  exact ⟨token.predicate? kind target, by rw [compile_token_result, read]; rfl⟩

section Tokens

variable (field : String) (kind : Kind) (target : Target)

theorem tokens_passed (texts : List String)
    (passed : ∀ text ∈ texts, ∃ token, Token.read (.ofKind kind) text = .ok token) :
    (compileTokens field kind target texts).events = texts.flatMap (tokenEvents field kind) := by
  rw [compile_tokens_events, Logged.events_passed _ _ (compile_token_passes field kind target texts passed)]
  simp only [compile_token_events]

theorem tokens_failed (front : List String) (text : String) (back : List String) (e : Error)
    (passed : ∀ earlier ∈ front, ∃ token, Token.read (.ofKind kind) earlier = .ok token)
    (failed : Token.read (.ofKind kind) text = .error e) :
    (compileTokens field kind target (front ++ text :: back)).events = front.flatMap (tokenEvents field kind) := by
  have unread : (compileToken field kind target text).result = .error e := by
    rw [compile_token_result, failed]
    rfl
  have silent : tokenEvents field kind text = [] := by simp [tokenEvents, failed, Except.toOption]
  rw [compile_tokens_events,
    Logged.events_failed _ front text back e (compile_token_passes field kind target front passed) unread]
  simp only [compile_token_events, silent, List.append_nil]

end Tokens

def emptyReport {α : Type} (event : Event) : Except Error (Option α) → List Event
  | .ok none => [event]
  | _ => []

theorem report_events {α : Type} (x : Compiling (Option α)) (event : Event) :
    (do
      let built ← x
      if built.isNone then
        Logged.log [event]
      return built : Compiling (Option α)).events = x.events ++ emptyReport event x.result := by
  cases outcome : x.result with
  | error e =>
      rw [Logged.events_bind_error _ _ e outcome]
      exact (List.append_nil x.events).symm
  | ok built =>
      rw [Logged.events_bind_ok _ _ built outcome]
      cases built <;> rfl

section Entries

variable (schema : Schema) (field : Field) (entry : Entry)

theorem entry_unresolved_events (e : Error) (failed : schema.resolve entry.path = .error e) :
    (schema.compileEntry field entry).events = [] := by
  unfold SchemaOf.compileEntry
  rw [Logged.events_bind_error _ _ e (by rw [failed]; rfl)]
  rfl

theorem entry_resolved_events (route : Path.Route) (resolved : schema.resolve entry.path = .ok route) :
    ∃ target, (schema.compileEntry field entry).events =
      (compileTokens field.name route.kind.leaf target entry.tokens).events ++
        emptyReport (.emptyField schema.path entry.path) (schema.compileEntry field entry).result := by
  unfold SchemaOf.compileEntry
  rw [resolved, Logged.events_bind_ok _ _ route rfl, Logged.result_bind]
  simp only [Logged.ofExcept, Except.bind, List.nil_append]
  cases collection : route.kind.item? with
  | none =>
      have leaf := route.kind.leaf_plain collection
      refine ⟨.field route.ref, ?_⟩
      dsimp only
      rw [report_events, report_result, leaf]
  | some item =>
      have leaf := route.kind.leaf_item item collection
      refine ⟨.item, ?_⟩
      dsimp only
      rw [report_events, report_result, leaf, Logged.events_map]

end Entries

-- Nodes that stand for alternatives, under an `exists` too; any other predicate is one by itself.
def Predicate.disjuncts : Predicate → Nat
  | .or parts => parts.length
  | .exists _ inner => inner.disjuncts
  | _ => 1

namespace Event

def isTokenDropped : Event → Bool
  | .tokenDropped _ _ => true
  | _ => false

def isCompiled : Event → Bool
  | .compiled _ _ => true
  | _ => false

end Event

section Counting

variable (field : String) (kind : Kind)

theorem asks_read (text : String) (token : Token) (read : Token.read (.ofKind kind) text = .ok token) :
    kind.asks text = token.survives kind := by
  rw [Kind.asks, read]
  rfl

theorem token_events_cases (text : String) (token : Token) (read : Token.read (.ofKind kind) text = .ok token) :
    token.survives kind = true ∧ tokenEvents field kind text = [] ∨
      token.survives kind = false ∧
        ∃ why : Dropped, tokenEvents field kind text = [why.event, .tokenDropped field text] := by
  unfold tokenEvents
  rw [read, ← token.fault_is_none kind]
  simp only [Except.toOption, Option.bind_some]
  cases token.fault? kind with
  | none => exact .inl ⟨rfl, rfl⟩
  | some why => exact .inr ⟨rfl, why, rfl⟩

theorem dropped_read (text : String) (token : Token) (read : Token.read (.ofKind kind) text = .ok token) :
    (tokenEvents field kind text).countP Event.isTokenDropped = if token.survives kind then 0 else 1 := by
  rcases token_events_cases field kind text token read with ⟨asks, silent⟩ | ⟨dropped, why, events⟩
  · rw [silent, asks]
    rfl
  · rw [events, dropped]
    cases why <;> rfl

theorem some_asks (texts : List String) (tokens : List Token)
    (read : List.Forall₂ (fun text token => Token.read (.ofKind kind) text = .ok token) texts tokens) :
    texts.any kind.asks = !(tokens.filter (Token.survives kind)).isEmpty := by
  induction read with
  | nil => rfl
  | @cons text token texts tokens first _ ih =>
      rw [List.any_cons, asks_read kind text token first, ih, List.filter_cons]
      cases token.survives kind <;> simp

theorem asked_or_dropped (texts : List String) (tokens : List Token)
    (read : List.Forall₂ (fun text token => Token.read (.ofKind kind) text = .ok token) texts tokens) :
    (tokens.filter (Token.survives kind)).length +
      (texts.flatMap (tokenEvents field kind)).countP Event.isTokenDropped = texts.length := by
  induction read with
  | nil => rfl
  | @cons text token texts tokens first _ ih =>
      rw [List.flatMap_cons, List.countP_append, dropped_read field kind text token first, List.filter_cons,
        List.length_cons, ← ih]
      cases token.survives kind <;> simp <;> omega

end Counting

section NotCompiled

theorem token_not_compiled (field : String) (kind : Kind) (text : String) :
    ∀ event ∈ tokenEvents field kind text, event.isCompiled = false := by
  intro event reported
  unfold tokenEvents at reported
  split at reported
  · cases reported
  · rename_i why _
    rcases List.mem_pair.mp reported with rfl | rfl
    · cases why <;> rfl
    · rfl

theorem entry_not_compiled (schema : Schema) (field : Field) (entry : Entry) :
    ∀ event ∈ schema.entryEvents field entry, event.isCompiled = false := by
  intro event reported
  unfold SchemaOf.entryEvents at reported
  split at reported
  · cases reported
  · rcases List.mem_append.mp reported with dropped | empty
    · obtain ⟨text, _, reported⟩ := List.mem_flatMap.mp dropped
      exact token_not_compiled _ _ text event reported
    · split at empty
      · cases empty
      · rw [List.mem_singleton.mp empty]
        rfl

theorem unknown_not_compiled (schema : Schema) (query : Query) :
    ∀ event ∈ schema.unknownEvents query, event.isCompiled = false := by
  intro event reported
  obtain ⟨entry, _, rfl⟩ := List.mem_map.mp reported
  rfl

end NotCompiled

theorem token_disjuncts (kind : Kind) (target : Target) (levels : Nat) (token : Token) (p : Predicate)
    (shape : TokenShape kind target levels token p) : p.disjuncts = 1 := by
  cases shape with
  | leaf shape =>
      split
      · rfl
      · cases shape <;> rfl
  | not inner => rfl

theorem alternatives_disjuncts (kind : Kind) (target : Target) (tokens : List Token) (p : Predicate)
    (shape : Alternatives kind target tokens p) : p.disjuncts = tokens.length := by
  cases shape with
  | alone only =>
      obtain ⟨levels, _, tokenShape⟩ := only
      exact token_disjuncts kind target levels _ p tokenShape
  | together several each => exact each.length_eq.symm

theorem reading_disjuncts (reading : Reading) (p : Predicate) (shape : ReadingShape reading p) :
    p.disjuncts = reading.surviving.length := by
  cases shape with
  | scalar plain tokens => exact alternatives_disjuncts _ _ _ p tokens
  | collection items tokens =>
      rw [Predicate.disjuncts]
      exact alternatives_disjuncts _ _ _ _ tokens

section Reported

variable (schema : Schema) (field : Field) (entry : Entry)

theorem empty_report_ok {α : Type} (event : Event) (part : Option α) :
    emptyReport event (.ok part) = if part.isSome then [] else [event] := by
  cases part <;> rfl

theorem entry_built (part : Option Predicate) (built : (schema.compileEntry field entry).result = .ok part) :
    ∃ reading, schema.readEntry entry = .ok reading ∧ reading.predicate? = part ∧
      schema.resolve entry.path = .ok reading.route ∧
      List.Forall₂ (fun text token => Token.read (.ofKind reading.route.kind.leaf) text = .ok token)
        entry.tokens reading.tokens := by
  have outcome := compile_entry_result schema field entry
  rw [built] at outcome
  obtain ⟨reading, read, part⟩ := (except_map_ok_iff _ _ _).mp outcome.symm
  obtain ⟨resolved, readTokens⟩ := (read_entry_ok_iff schema entry reading).mp read
  exact ⟨reading, read, part, resolved, (map_m_ok_iff _ _ _).mp readTokens⟩

theorem entry_events (part : Option Predicate) (built : (schema.compileEntry field entry).result = .ok part) :
    (schema.compileEntry field entry).events = schema.entryEvents field entry := by
  obtain ⟨reading, read, rfl, resolved, each⟩ := entry_built schema field entry part built
  have passed : ∀ text ∈ entry.tokens, ∃ token, Token.read (.ofKind reading.route.kind.leaf) text = .ok token := by
    intro text given
    obtain ⟨token, _, readText⟩ := forall_mem_left each text given
    exact ⟨token, readText⟩
  obtain ⟨target, events⟩ := entry_resolved_events schema field entry reading.route resolved
  have asked : entry.tokens.any reading.route.kind.leaf.asks = reading.predicate?.isSome := by
    rw [some_asks _ _ _ each, reading_is_some, Reading.surviving]
  simp only [SchemaOf.entryEvents, resolved]
  rw [events, tokens_passed field.name _ target entry.tokens passed, built, empty_report_ok, asked]

theorem entry_count (part : Option Predicate) (built : (schema.compileEntry field entry).result = .ok part) :
    part.elim 0 Predicate.disjuncts + (schema.entryEvents field entry).countP Event.isTokenDropped =
      entry.tokens.length := by
  obtain ⟨reading, read, rfl, resolved, each⟩ := entry_built schema field entry part built
  have contributed : reading.predicate?.elim 0 Predicate.disjuncts = reading.surviving.length := by
    cases found : reading.predicate? with
    | none =>
        have isSome := reading_is_some reading
        rw [found] at isSome
        have nothing : reading.surviving = [] := by simpa using isSome
        rw [nothing]
        rfl
    | some p =>
        exact reading_disjuncts reading p (reading_shape reading p (read_entry_fits schema entry reading read) found)
  have silent : ∀ asked : Bool,
      (if asked then [] else [Event.emptyField schema.path entry.path]).countP Event.isTokenDropped = 0 := by
    intro asked
    cases asked <;> rfl
  rw [contributed, SchemaOf.entryEvents, resolved]
  simp only [List.countP_append, silent, Nat.add_zero]
  exact asked_or_dropped field.name _ _ _ each

theorem entry_failed_events (e : Error) (failed : (schema.compileEntry field entry).result = .error e) :
    schema.resolve entry.path = .error e ∧ (schema.compileEntry field entry).events = [] ∨
      ∃ route front text back, schema.resolve entry.path = .ok route ∧ entry.tokens = front ++ text :: back ∧
        (∀ earlier ∈ front, ∃ token, Token.read (.ofKind route.kind.leaf) earlier = .ok token) ∧
        Token.read (.ofKind route.kind.leaf) text = .error e ∧
        (schema.compileEntry field entry).events = front.flatMap (tokenEvents field.name route.kind.leaf) := by
  have outcome := compile_entry_result schema field entry
  rw [failed] at outcome
  have unread := (except_map_error_iff _ _ _).mp outcome.symm
  cases (schema.read_entry_error_iff entry e).mp unread with
  | path unresolved => exact .inl ⟨unresolved, entry_unresolved_events schema field entry e unresolved⟩
  | @token route front back text _ resolved split passed refused =>
      obtain ⟨target, events⟩ := entry_resolved_events schema field entry route resolved
      refine .inr ⟨route, front, text, back, resolved, split, passed, refused, ?_⟩
      rw [events, failed, split, tokens_failed field.name _ target front text back e passed refused]
      exact List.append_nil _

end Reported

section Compilation

variable (schema : Schema) (query : Query) (combination : Combination)

def SchemaOf.compileEntries (schema : Schema) (query : Query) : Compiling (List (Option Predicate)) :=
  (schema.knownEntries query).mapM fun known => schema.compileEntry known.1 known.2

def SchemaOf.conclude (schema : Schema) (combination : Combination) (built : List (Option Predicate)) :
    Compiling (Option Predicate) :=
  match combination.fold built.reduceOption with
  | some predicate => do
    Logged.log [.compiled schema.path predicate]
    return some predicate
  | none => return none

theorem compile_stages :
    compile schema query combination = (do
      Logged.log (schema.unknownEvents query)
      let built ← schema.compileEntries query
      schema.conclude combination built) := rfl

theorem conclude_result (built : List (Option Predicate)) :
    (schema.conclude combination built).result = .ok (combination.fold built.reduceOption) := by
  unfold SchemaOf.conclude
  cases combination.fold built.reduceOption <;> rfl

theorem conclude_events (built : List (Option Predicate)) :
    (schema.conclude combination built).events =
      (combination.fold built.reduceOption).toList.map (.compiled schema.path) := by
  unfold SchemaOf.conclude
  cases combination.fold built.reduceOption <;> rfl

theorem compile_outcome :
    (compile schema query combination).result =
      (schema.compileEntries query).result.map fun built => combination.fold built.reduceOption := by
  rw [compile_stages, Logged.result_bind, Logged.result_log, Except.bind, Logged.result_bind]
  simp only [conclude_result]
  cases (schema.compileEntries query).result <;> rfl

theorem compile_passed_events (built : List (Option Predicate))
    (passed : (schema.compileEntries query).result = .ok built) :
    (compile schema query combination).events =
      schema.unknownEvents query ++ (schema.compileEntries query).events ++
        (combination.fold built.reduceOption).toList.map (.compiled schema.path) := by
  rw [compile_stages, Logged.events_bind_ok _ _ () rfl, Logged.events_bind_ok _ _ built passed, conclude_events,
    List.append_assoc]
  rfl

theorem compile_failed_events (e : Error) (failed : (schema.compileEntries query).result = .error e) :
    (compile schema query combination).events =
      schema.unknownEvents query ++ (schema.compileEntries query).events := by
  rw [compile_stages, Logged.events_bind_ok _ _ () rfl, Logged.events_bind_error _ _ e failed]
  rfl

theorem entries_passed (built : List (Option Predicate)) (passed : (schema.compileEntries query).result = .ok built) :
    (schema.compileEntries query).events =
        (schema.knownEntries query).flatMap (fun known => schema.entryEvents known.1 known.2) ∧
      List.Forall₂ (fun (known : Field × Entry) part =>
        (schema.compileEntry known.1 known.2).result = .ok part ∧
          part.elim 0 Predicate.disjuncts + (schema.entryEvents known.1 known.2).countP Event.isTokenDropped =
            known.2.tokens.length) (schema.knownEntries query) built := by
  have each : List.Forall₂ (fun (known : Field × Entry) part => (schema.compileEntry known.1 known.2).result = .ok part)
      (schema.knownEntries query) built := by
    rw [SchemaOf.compileEntries, Logged.result_map_m] at passed
    exact (map_m_ok_iff _ _ _).mp passed
  have one : ∀ known ∈ schema.knownEntries query, ∃ part, (schema.compileEntry known.1 known.2).result = .ok part := by
    intro known member
    obtain ⟨part, _, outcome⟩ := forall_mem_left each known member
    exact ⟨part, outcome⟩
  refine ⟨?_, each.imp fun known part outcome => ⟨outcome, entry_count schema known.1 known.2 part outcome⟩⟩
  rw [SchemaOf.compileEntries, Logged.events_passed _ _ one]
  refine List.flatMap_congr fun known member => ?_
  obtain ⟨part, outcome⟩ := one known member
  exact entry_events schema known.1 known.2 part outcome

theorem entries_failed (e : Error) (failed : (schema.compileEntries query).result = .error e) :
    ∃ before field entry after, schema.knownEntries query = before ++ (field, entry) :: after ∧
      (∀ known ∈ before, ∃ part, (schema.compileEntry known.1 known.2).result = .ok part) ∧
      (schema.compileEntry field entry).result = .error e ∧
      (schema.compileEntries query).events =
        before.flatMap (fun known => schema.entryEvents known.1 known.2) ++
          (schema.compileEntry field entry).events := by
  rw [SchemaOf.compileEntries, Logged.result_map_m, map_m_error_iff] at failed
  obtain ⟨before, ⟨field, entry⟩, after, split, passed, refused⟩ := failed
  refine ⟨before, field, entry, after, split, passed, refused, ?_⟩
  rw [SchemaOf.compileEntries, split, Logged.events_failed _ before (field, entry) after e passed refused]
  congr 1
  refine List.flatMap_congr fun known member => ?_
  obtain ⟨part, outcome⟩ := passed known member
  exact entry_events schema known.1 known.2 part outcome

theorem failed_not_compiled (e : Error) (failed : (compile schema query combination).result = .error e) :
    ∀ event ∈ (compile schema query combination).events, event.isCompiled = false := by
  rw [compile_outcome, except_map_error_iff] at failed
  obtain ⟨before, field, entry, after, _, _, refused, events⟩ := entries_failed schema query e failed
  rw [compile_failed_events schema query combination e failed, events]
  intro event reported
  rcases List.mem_append.mp reported with unknown | reported
  · exact unknown_not_compiled schema query event unknown
  · rcases List.mem_append.mp reported with earlier | last
    · obtain ⟨known, _, reported⟩ := List.mem_flatMap.mp earlier
      exact entry_not_compiled schema known.1 known.2 event reported
    · rcases entry_failed_events schema field entry e refused with ⟨_, silent⟩ | ⟨_, front, _, _, _, _, _, _, silent⟩
      · rw [silent] at last
        cases last
      · rw [silent] at last
        obtain ⟨text, _, reported⟩ := List.mem_flatMap.mp last
        exact token_not_compiled _ _ text event reported

end Compilation

-- Of a valid query, all entries for no field are reported first, then for each other entry its dropped
-- tokens and that none is left, then the filter if there is one; so each token given for a field is
-- reported or stands for one alternative. Of an invalid query, the same up to the path or the token
-- that makes it so, and no filter.
theorem compile_events (schema : Schema) (query : Query) (combination : Combination) :
    (∀ result, (compile schema query combination).result = .ok result →
      (compile schema query combination).events =
          schema.unknownEvents query ++
            (schema.knownEntries query).flatMap (fun known => schema.entryEvents known.1 known.2) ++
            result.toList.map (.compiled schema.path) ∧
        ∃ parts : List (Option Predicate), combination.fold parts.reduceOption = result ∧
          List.Forall₂ (fun (known : Field × Entry) part =>
            (schema.compileEntry known.1 known.2).result = .ok part ∧
              part.elim 0 Predicate.disjuncts + (schema.entryEvents known.1 known.2).countP Event.isTokenDropped =
                known.2.tokens.length) (schema.knownEntries query) parts) ∧
    (∀ field kind text token, Token.read (.ofKind kind) text = .ok token →
      token.survives kind = true ∧ tokenEvents field kind text = [] ∨
        token.survives kind = false ∧
          ∃ why : Dropped, tokenEvents field kind text = [why.event, .tokenDropped field text]) ∧
    ∀ e, (compile schema query combination).result = .error e →
      (∀ event ∈ (compile schema query combination).events, event.isCompiled = false) ∧
      ∃ before field entry after, schema.knownEntries query = before ++ (field, entry) :: after ∧
        (∀ known ∈ before, ∃ part, (schema.compileEntry known.1 known.2).result = .ok part) ∧
        (schema.resolve entry.path = .error e ∧
            (compile schema query combination).events =
              schema.unknownEvents query ++ before.flatMap (fun known => schema.entryEvents known.1 known.2) ∨
          ∃ route front text back, schema.resolve entry.path = .ok route ∧ entry.tokens = front ++ text :: back ∧
            (∀ earlier ∈ front, ∃ token, Token.read (.ofKind route.kind.leaf) earlier = .ok token) ∧
            Token.read (.ofKind route.kind.leaf) text = .error e ∧
            (compile schema query combination).events =
              schema.unknownEvents query ++ before.flatMap (fun known => schema.entryEvents known.1 known.2) ++
                front.flatMap (tokenEvents field.name route.kind.leaf)) := by
  refine ⟨?_, token_events_cases, ?_⟩
  · intro result valid
    rw [compile_outcome, except_map_ok_iff] at valid
    obtain ⟨parts, passed, folded⟩ := valid
    obtain ⟨events, counts⟩ := entries_passed schema query parts passed
    rw [compile_passed_events schema query combination parts passed, events, folded]
    exact ⟨rfl, parts, folded, counts⟩
  · intro e invalid
    refine ⟨failed_not_compiled schema query combination e invalid, ?_⟩
    rw [compile_outcome, except_map_error_iff] at invalid
    obtain ⟨before, field, entry, after, split, passed, refused, events⟩ := entries_failed schema query e invalid
    refine ⟨before, field, entry, after, split, passed, ?_⟩
    rw [compile_failed_events schema query combination e invalid, events]
    cases entry_failed_events schema field entry e refused with
    | inl unresolved =>
        obtain ⟨unresolved, silent⟩ := unresolved
        exact .inl ⟨unresolved, by rw [silent, List.append_nil]⟩
    | inr unread =>
        obtain ⟨route, front, text, back, resolved, given, read, failed, reported⟩ := unread
        exact .inr ⟨route, front, text, back, resolved, given, read, failed, by rw [reported, List.append_assoc]⟩

theorem compile_events_of_people :
    let home : Schema := ⟨"homes", "Home", [⟨"City", .text⟩]⟩
    let schema : Schema := ⟨"people", "Person", [⟨"Age", .nullable .int⟩, ⟨"Home", .nullable (.record home)⟩]⟩
    let age : Target := .field ⟨"Age", [0]⟩
    let p : Predicate := .guarded age (.compare age .gte (.int 18) .numericWiden)
    let valid : Query := [⟨"home.city", []⟩, ⟨"name", ["x"]⟩, ⟨"age", ["&", "18&", "not(x)"]⟩]
    let invalid : Query := [⟨"home.city", []⟩, ⟨"age", ["&", "1&2&3", "18&"]⟩]
    (compile schema valid .and).result = .ok (some p) ∧
      (compile schema valid .and).events =
        [.unknownField "people" "name", .emptyField "people" "home.city", .boundlessRange, .tokenDropped "Age" "&",
          .tokenSkipped (.nullable .int) "x" (.notInteger "x" .invalidDigit), .tokenDropped "Age" "not(x)",
          .compiled "people" p] ∧
      (compile schema invalid .and).result = .error (.rangeArity "1&2&3" 3) ∧
      (compile schema invalid .and).events =
        [.emptyField "people" "home.city", .boundlessRange, .tokenDropped "Age" "&"] :=
  ⟨rfl, ((compile_events _ _ .and).1 _ rfl).1.trans rfl, rfl, rfl⟩

end TokenFilter
