import TokenFilter.Proofs.Layers
import TokenFilter.Proofs.Quoting

set_option autoImplicit false

namespace TokenFilter

namespace Text

def isNumberChar (c : Char) : Bool := c.isAlphanum || ['+', '-', '.', '_'].contains c

def isMomentChar (c : Char) : Bool :=
  isBlank c || c.isDigit || ['+', '-', '−', ':', '.', 'T', 't', 'Z', 'z'].contains c

def Over (p : Char → Bool) (cs rest : List Char) : Prop := ∃ front, cs = front ++ rest ∧ ∀ c ∈ front, p c = true

section Over

variable (p : Char → Bool)

theorem over_refl (cs : List Char) : Over p cs cs := ⟨[], rfl, by simp⟩

theorem over_cons (c : Char) (cs rest : List Char) (here : p c = true) (later : Over p cs rest) :
    Over p (c :: cs) rest := by
  obtain ⟨front, rfl, sorts⟩ := later
  refine ⟨c :: front, rfl, ?_⟩
  intro d member
  rcases List.mem_cons.mp member with rfl | behind
  · exact here
  · exact sorts d behind

theorem over_trans (cs middle rest : List Char) (first : Over p cs middle) (second : Over p middle rest) :
    Over p cs rest := by
  obtain ⟨front, rfl, sorts⟩ := first
  obtain ⟨more, rfl, sorts'⟩ := second
  refine ⟨front ++ more, by rw [List.append_assoc], ?_⟩
  intro c member
  rcases List.mem_append.mp member with early | late
  · exact sorts c early
  · exact sorts' c late

theorem over_run (q : Char → Bool) (cs : List Char) (within : ∀ c, q c = true → p c = true) :
    Over p cs (cs.dropWhile q) :=
  ⟨cs.takeWhile q, List.takeWhile_append_dropWhile.symm, fun c member => within c (List.mem_takeWhile_imp member)⟩

theorem over_all (cs rest : List Char) (front : Over p cs rest) (sorts : ∀ c ∈ rest, p c = true) :
    ∀ c ∈ cs, p c = true := by
  obtain ⟨front, rfl, before⟩ := front
  intro c member
  rcases List.mem_append.mp member with early | late
  · exact before c early
  · exact sorts c late

end Over

theorem digit_number (c : Char) (digit : c.isDigit = true) : isNumberChar c = true := by
  simp [isNumberChar, Char.isAlphanum, digit]

theorem letter_number (c : Char) (letter : c.isAlpha = true) : isNumberChar c = true := by
  simp [isNumberChar, Char.isAlphanum, letter]

theorem digit_moment (c : Char) (digit : c.isDigit = true) : isMomentChar c = true := by
  simp [isMomentChar, digit]

theorem blank_moment (c : Char) (blank : isBlank c = true) : isMomentChar c = true := by
  simp [isMomentChar, blank]

theorem number_solid (c : Char) (number : isNumberChar c = true) : isBlank c = false := by
  simp only [isNumberChar, Char.isAlphanum, List.contains_cons, List.contains_nil, Bool.or_eq_true, beq_iff_eq,
    Bool.false_eq_true, or_false] at number
  rcases number with (letter | digit) | rfl | rfl | rfl | rfl
  · exact alpha_solid c letter
  · exact digit_solid c digit
  all_goals decide

theorem number_bare (cs : List Char) (number : ∀ c ∈ cs, isNumberChar c = true) : Literal.bare cs = cs := by
  refine (bare_fixed_iff cs).mpr ⟨?_, ?_, ?_⟩
  · intro c first
    exact number_solid c (number c (List.mem_of_mem_head? first))
  · intro c last
    exact number_solid c (number c (List.mem_of_mem_getLast? last))
  · intro inner quoted
    have quote := number '"' (by simp [quoted])
    cases quote

end Text

open Text

namespace Integer

theorem magnitude_from_digits (limit : Nat) (past : Fault) (value n : Nat) (cs : List Char)
    (read : magnitudeFrom limit past value cs = .ok n) : ∀ c ∈ cs, c.isDigit = true := by
  fun_induction magnitudeFrom limit past value cs with
  | case1 value => simp
  | case2 value c rest digit next fits ih =>
      intro d member
      rcases List.mem_cons.mp member with rfl | later
      · exact digit
      · exact ih read d later
  | case3 value c rest digit next past => cases read
  | case4 value c rest other => cases read

theorem magnitude_chars (limit : Nat) (past : Fault) (n : Nat) (cs : List Char)
    (read : magnitude limit past cs = .ok n) : ∀ c ∈ cs, isNumberChar c = true := by
  cases cs with
  | nil => cases read
  | cons c rest =>
      intro d member
      exact digit_number d (magnitude_from_digits limit past 0 n _ read d member)

theorem natural_chars (limit n : Nat) (cs : List Char) (read : readNatural limit cs = .ok n) :
    ∀ c ∈ cs, isNumberChar c = true := by
  unfold readNatural at read
  split at read
  · cases read
  · exact List.forall_mem_cons.mpr ⟨rfl, magnitude_chars _ _ n _ read⟩
  · exact magnitude_chars _ _ n cs read

theorem integer_chars (below above : Nat) (n : Int) (cs : List Char) (read : readInteger below above cs = .ok n) :
    ∀ c ∈ cs, isNumberChar c = true := by
  unfold readInteger at read
  split at read
  · cases read
  · obtain ⟨_, negated, _⟩ := (except_map_ok_iff _ _ n).mp read
    obtain ⟨m, digits, _⟩ := (except_bind_ok_iff _ _ _).mp negated
    exact List.forall_mem_cons.mpr ⟨rfl, magnitude_chars _ _ m _ digits⟩
  · obtain ⟨m, digits, _⟩ := (except_map_ok_iff _ _ n).mp read
    exact List.forall_mem_cons.mpr ⟨rfl, magnitude_chars _ _ m _ digits⟩
  · obtain ⟨m, digits, _⟩ := (except_map_ok_iff _ _ n).mp read
    exact magnitude_chars _ _ m cs digits

theorem int64_chars (cs : List Char) (n : Int64) (read : readInt64 cs = .ok n) :
    ∀ c ∈ cs, isNumberChar c = true := by
  obtain ⟨m, digits, _⟩ := (except_map_ok_iff _ _ _).mp read
  exact integer_chars _ _ m cs digits

theorem uint64_chars (cs : List Char) (n : UInt64) (read : readUInt64 cs = .ok n) :
    ∀ c ∈ cs, isNumberChar c = true := by
  obtain ⟨m, digits, _⟩ := (except_map_ok_iff _ _ _).mp read
  exact natural_chars _ m cs digits

end Integer

namespace Binary

theorem exponent_digits (digits : List Char) (n m : Int)
    (read : (if digits.isEmpty || !digits.all Char.isDigit then none else some n) = some m) :
    ∀ c ∈ digits, isNumberChar c = true := by
  split at read
  · cases read
  · rename_i passed
    have all : digits.all Char.isDigit = true := by
      simp only [Bool.or_eq_true, Bool.not_eq_true', not_or, Bool.not_eq_false] at passed
      exact passed.2
    intro c member
    exact digit_number c (List.all_eq_true.mp all c member)

theorem exponent_chars (cs : List Char) (n : Int) (read : readExponent cs = some n) :
    ∀ c ∈ cs, isNumberChar c = true := by
  unfold readExponent at read
  split at read
  · simp
  · rename_i mark rest
    split at read
    · rename_i marked
      refine List.forall_mem_cons.mpr ⟨by rcases marked with rfl | rfl <;> rfl, ?_⟩
      split at read
      rename_i negative digits parts
      have after := exponent_digits digits _ n read
      split at parts
      · cases parts
        exact List.forall_mem_cons.mpr ⟨rfl, after⟩
      · cases parts
        exact List.forall_mem_cons.mpr ⟨rfl, after⟩
      · cases parts
        exact after
    · cases read

theorem parts_chars (cs : List Char) (parts : DecimalParts) (read : readParts cs = some parts) :
    ∀ c ∈ cs, isNumberChar c = true := by
  have digits : ∀ more : List Char, Over isNumberChar more (more.dropWhile Char.isDigit) :=
    fun more => over_run _ _ more digit_number
  refine over_all _ cs _ (digits cs) ?_
  unfold readParts at read
  dsimp only at read
  split at read
  · rename_i more point
    rw [point]
    split at read
    · cases read
    · obtain ⟨exponent, rest, _⟩ := Option.map_eq_some_iff.mp read
      exact List.forall_mem_cons.mpr ⟨rfl, over_all _ more _ (digits more) (exponent_chars _ exponent rest)⟩
  · split at read
    · cases read
    · obtain ⟨exponent, rest, _⟩ := Option.map_eq_some_iff.mp read
      exact exponent_chars _ exponent rest

theorem word_chars (cs word : List Char) (letters : word.all Char.isAlpha = true)
    (lowered : word.map Char.toLower = word) (named : sameAscii cs word = true) : ∀ c ∈ cs, isNumberChar c = true := by
  intro c member
  exact letter_number c (word_letters cs word letters lowered named c member)

theorem magnitude_chars {f : Format} (negative : Bool) (cs : List Char) (x : Binary f)
    (read : readMagnitude negative cs = .ok x) : ∀ c ∈ cs, isNumberChar c = true := by
  unfold readMagnitude at read
  split at read
  · rename_i parts digits
    exact parts_chars cs parts digits
  · split at read
    · rename_i infinite
      rcases Bool.or_eq_true_iff.mp infinite with short | long
      · exact word_chars cs _ (by decide) (by decide) short
      · exact word_chars cs _ (by decide) (by decide) long
    · split at read
      · rename_i undefined
        exact word_chars cs _ (by decide) (by decide) undefined
      · cases read

theorem read_chars {f : Format} (cs : List Char) (x : Binary f) (read : Binary.read cs = .ok x) :
    ∀ c ∈ cs, isNumberChar c = true := by
  unfold Binary.read at read
  split at read
  · cases read
  · exact List.forall_mem_cons.mpr ⟨rfl, magnitude_chars true _ x read⟩
  · exact List.forall_mem_cons.mpr ⟨rfl, magnitude_chars false _ x read⟩
  · exact magnitude_chars false cs x read

end Binary

namespace Decimal

theorem separator_number (c : Char) (sorts : isDigitOrSeparator c = true) : isNumberChar c = true := by
  rcases Bool.or_eq_true_iff.mp sorts with digit | separator
  · exact digit_number c digit
  · rw [eq_of_beq separator]
    rfl

theorem rounded_chars (p : Progress) (c : Char) (rest : List Char) (rounded : Nat × Nat)
    (read : roundAt p c rest = .ok rounded) : ∀ d ∈ c :: rest, isNumberChar d = true := by
  obtain ⟨kept, by_, after⟩ := (except_bind_ok_iff _ _ _).mp read
  refine List.forall_mem_cons.mpr ⟨?_, ?_⟩
  · unfold roundedBy at by_
    split at by_
    · cases by_
    · rename_i sorts
      exact separator_number c (by simpa using sorts)
  · intro d member
    split at after
    · cases after
    · rename_i clean
      exact separator_number d (by simpa using List.find?_eq_none.mp clean d member)

theorem digits_chars (p : Progress) (cs : List Char) (parts : Nat × Nat) (read : digitsFrom p cs = .ok parts) :
    ∀ c ∈ cs, isNumberChar c = true := by
  fun_induction digitsFrom p cs with
  | case1 p done => simp
  | case2 p none => simp
  | case3 p c rest passed ih =>
      have separator : c = '_' := by
        simp only [Bool.and_eq_true, decide_eq_true_eq] at passed
        exact passed.1.1
      exact List.forall_mem_cons.mpr ⟨by rw [separator]; rfl, ih read⟩
  | case4 p c rest _ full => exact rounded_chars p c rest parts read
  | case5 p c rest _ _ digit next fits ih => exact List.forall_mem_cons.mpr ⟨digit_number c digit, ih read⟩
  | case6 p c rest _ _ digit next long point => exact rounded_chars p c rest parts read
  | case7 p c rest _ _ digit next long whole => cases read
  | case8 p c rest _ _ other point ih =>
      have dot : c = '.' := by
        simp only [Bool.and_eq_true, decide_eq_true_eq] at point
        exact point.1
      exact List.forall_mem_cons.mpr ⟨by rw [dot]; rfl, ih read⟩
  | case9 p c rest _ _ other stray => cases read

theorem plain_chars (cs : List Char) (d : Decimal) (read : readPlain cs = .ok d) :
    ∀ c ∈ cs, isNumberChar c = true := by
  unfold readPlain at read
  split at read
  · cases read
  · obtain ⟨parts, digits, _⟩ := (except_bind_ok_iff _ _ _).mp read
    exact List.forall_mem_cons.mpr ⟨rfl, digits_chars start _ parts digits⟩
  · obtain ⟨parts, digits, _⟩ := (except_bind_ok_iff _ _ _).mp read
    exact List.forall_mem_cons.mpr ⟨rfl, digits_chars start _ parts digits⟩
  · obtain ⟨parts, digits, _⟩ := (except_bind_ok_iff _ _ _).mp read
    exact digits_chars start _ parts digits

theorem power_chars (cs : List Char) (n : Nat) (read : readPower cs = .ok n) : ∀ c ∈ cs, isNumberChar c = true := by
  unfold readPower at read
  split at read
  · rename_i m natural
    exact Integer.natural_chars _ m cs natural
  · cases read

theorem scientific_chars (cs : List Char) (d : Decimal) (read : readScientific cs = .ok d) :
    ∀ c ∈ cs, isNumberChar c = true := by
  unfold readScientific at read
  split at read
  · cases read
  · rename_i mark power after
    obtain ⟨front, plain, rest⟩ := (except_bind_ok_iff _ _ _).mp read
    refine over_all _ cs (mark :: power) ⟨_, ?_, plain_chars _ front plain⟩ (List.forall_mem_cons.mpr ⟨?_, ?_⟩)
    · rw [← after, List.takeWhile_append_dropWhile]
    · have marked := List.head?_dropWhile_not (fun c => !isExponentMark c) cs
      rw [after, List.head?_cons] at marked
      simp only [Bool.not_eq_false', isExponentMark, Bool.or_eq_true, beq_iff_eq] at marked
      rcases marked with rfl | rfl <;> rfl
    · split at rest
      · obtain ⟨n, digits, _⟩ := (except_bind_ok_iff _ _ _).mp rest
        exact List.forall_mem_cons.mpr ⟨rfl, power_chars _ n digits⟩
      · obtain ⟨n, digits, _⟩ := (except_bind_ok_iff _ _ _).mp rest
        exact power_chars _ n digits

theorem read_chars (cs : List Char) (d : Decimal) (read : Decimal.read cs = .ok d) :
    ∀ c ∈ cs, isNumberChar c = true := by
  unfold Decimal.read at read
  split at read
  · rename_i plain
    exact plain_chars cs _ plain
  · exact scientific_chars cs d read

end Decimal

namespace Calendar

theorem digits_over (least : Nat) (most : Option Nat) (cs rest : List Char) (n : Nat)
    (read : digits least most cs = .ok (n, rest)) : Over isMomentChar cs rest := by
  have taken : ∀ found, found <+: cs → (∀ c ∈ found, c.isDigit = true) →
      Over isMomentChar cs (cs.drop found.length) := by
    intro found front sorts
    refine ⟨found, (List.prefix_iff_eq_append.mp front).symm, ?_⟩
    intro c member
    exact digit_moment c (sorts c member)
  unfold digits at read
  dsimp only at read
  split at read
  · rename_i most
    split at read
    · cases read
      refine taken _ ((List.takeWhile_prefix _).trans (List.take_prefix most cs)) ?_
      intro c member
      exact List.mem_takeWhile_imp member
    · split at read <;> cases read
  · split at read
    · cases read
      exact taken _ (List.takeWhile_prefix _) fun c member => List.mem_takeWhile_imp member
    · split at read <;> cases read

theorem number_over (least : Nat) (most : Option Nat) (next : Parsed Nat → Except Fault (Parsed Reading))
    (leaves : ∀ n after r rest, next (n, after) = .ok (r, rest) → rest = after) (cs rest : List Char) (r : Reading)
    (read : (digits least most cs).bind next = .ok (r, rest)) : Over isMomentChar cs rest := by
  obtain ⟨⟨n, after⟩, found, filled⟩ := (except_bind_ok_iff _ _ _).mp read
  rw [leaves n after r rest filled]
  exact digits_over least most cs after n found

theorem put_leaves (put : Except Fault Reading) (after rest : List Char) (r : Reading)
    (done : (put.bind fun r => .ok (r, after)) = .ok (r, rest)) : rest = after := by
  obtain ⟨_, _, same⟩ := (except_bind_ok_iff _ _ _).mp done
  cases same
  rfl

theorem free_over (r r' : Reading) (field : Field) (cs rest : List Char) (read : readFree r field cs = .ok (r', rest)) :
    Over isMomentChar cs rest := by
  refine over_trans _ cs (trimLeft cs) rest (over_run _ _ cs blank_moment) ?_
  unfold readFree at read
  split at read
  · rename_i signed
    rw [signed]
    exact over_cons _ _ _ rest rfl (number_over _ _ _ (fun _ after r rest => put_leaves _ after rest r) _ rest r' read)
  · rename_i signed
    rw [signed]
    exact over_cons _ _ _ rest rfl (number_over _ _ _ (fun _ after r rest => put_leaves _ after rest r) _ rest r' read)
  · exact number_over _ _ _ (fun _ after r rest => put_leaves _ after rest r) _ rest r' read

theorem fixed_over (r r' : Reading) (field : Field) (cs rest : List Char)
    (read : readFixed r field cs = .ok (r', rest)) : Over isMomentChar cs rest :=
  number_over _ _ _ (fun _ after r rest => put_leaves _ after rest r) cs rest r' read

theorem one_over (choices : List Char) (sorts : choices.all isMomentChar = true) (cs rest : List Char)
    (read : readOneOf choices cs = .ok rest) : Over isMomentChar cs rest := by
  unfold readOneOf at read
  split at read
  · cases read
  · rename_i c after
    split at read
    · rename_i chosen
      cases read
      exact over_cons _ c _ _ (List.all_eq_true.mp sorts c (List.contains_iff_mem.mp chosen)) (over_refl _ _)
    · cases read

theorem fraction_over (r r' : Reading) (cs rest : List Char) (read : readFraction r cs = .ok (r', rest)) :
    Over isMomentChar cs rest := by
  unfold readFraction at read
  split at read
  · rename_i digits
    obtain ⟨⟨n, after⟩, found, done⟩ := (except_bind_ok_iff _ _ _).mp read
    cases done
    refine over_cons _ _ _ _ rfl (over_trans _ _ after _ (digits_over _ _ _ after n found) ?_)
    exact over_run _ _ after digit_moment
  · cases read
    exact over_refl _ _

theorem sign_over (cs rest : List Char) (negative : Bool) (read : readSign cs = .ok (negative, rest)) :
    Over isMomentChar cs rest := by
  unfold readSign at read
  split at read
  · cases read
  · rename_i c after
    split at read
    · rename_i plus
      cases read
      exact over_cons _ c _ _ (by rw [plus]; rfl) (over_refl _ _)
    · split at read
      · rename_i minus
        cases read
        exact over_cons _ c _ _ (by rcases minus with rfl | rfl <;> rfl) (over_refl _ _)
      · cases read

theorem offset_over (r r' : Reading) (between : List Char → Except Fault (List Char)) (cs rest : List Char)
    (passes : ∀ cs rest, between cs = .ok rest → Over isMomentChar cs rest)
    (read : readOffset r between cs = .ok (r', rest)) : Over isMomentChar cs rest := by
  obtain ⟨⟨negative, afterSign⟩, sign, read⟩ := (except_bind_ok_iff _ _ _).mp read
  obtain ⟨⟨hours, afterHours⟩, first, read⟩ := (except_bind_ok_iff _ _ _).mp read
  obtain ⟨afterMark, mark, read⟩ := (except_bind_ok_iff _ _ _).mp read
  obtain ⟨⟨minutes, afterMinutes⟩, second, read⟩ := (except_bind_ok_iff _ _ _).mp read
  dsimp only at read
  split at read
  · cases read
    refine over_trans _ _ _ _ (sign_over cs afterSign negative sign) ?_
    refine over_trans _ _ _ _ (digits_over _ _ _ afterHours hours first) ?_
    exact over_trans _ _ _ _ (passes _ _ mark) (digits_over _ _ _ _ minutes second)
  · cases read

theorem strict_over (r r' : Reading) (cs rest : List Char) (read : readStrictOffset r cs = .ok (r', rest)) :
    Over isMomentChar cs rest := by
  unfold readStrictOffset at read
  split at read
  · cases read
    exact over_cons _ _ _ _ rfl (over_refl _ _)
  · cases read
    exact over_cons _ _ _ _ rfl (over_refl _ _)
  · exact offset_over r r' _ cs rest (one_over [':'] (by decide)) read

def Item.isMoment : Item → Bool
  | .oneOf choices => choices.all isMomentChar
  | _ => true

theorem item_over (item : Item) (sorts : item.isMoment = true) (r r' : Reading)
    (cs rest : List Char) (read : item.read r cs = .ok (r', rest)) : Over isMomentChar cs rest := by
  cases item with
  | free field => exact free_over r r' field cs rest read
  | fixed field => exact fixed_over r r' field cs rest read
  | oneOf choices =>
      obtain ⟨after, chosen, same⟩ := (except_map_ok_iff _ _ _).mp read
      cases same
      exact one_over choices sorts cs _ chosen
  | blanks =>
      cases read
      exact over_run _ _ cs blank_moment
  | fraction => exact fraction_over r r' cs rest read
  | looseOffset =>
      refine over_trans _ cs (trimLeft cs) rest (over_run _ _ cs blank_moment) ?_
      refine offset_over r r' (fun rest => .ok (rest.dropWhile isOffsetMark)) _ rest ?_ read
      intro before after passed
      cases passed
      refine over_run _ _ before ?_
      intro c mark
      rcases Bool.or_eq_true_iff.mp mark with colon | blank
      · rw [eq_of_beq colon]
        rfl
      · exact blank_moment c blank
  | strictOffset => exact strict_over r r' cs rest read

-- The whole text is read, so that all of its characters are ones that some item passes over.
theorem pattern_chars (pattern : Pattern) (sorts : pattern.all Item.isMoment = true)
    (r r' : Reading) (cs : List Char) (read : pattern.readFrom r cs = .ok r') : ∀ c ∈ cs, isMomentChar c = true := by
  induction pattern generalizing r cs with
  | nil =>
      unfold Pattern.readFrom at read
      split at read
      · rename_i empty
        simp [List.isEmpty_iff.mp empty]
      · cases read
  | cons item rest ih =>
      obtain ⟨⟨next, after⟩, first, others⟩ := (except_bind_ok_iff _ _ _).mp read
      rw [List.all_cons, Bool.and_eq_true] at sorts
      exact over_all _ cs after (item_over item sorts.1 r next cs after first) (ih sorts.2 next after others)

theorem read_pattern_chars {α : Type} (pattern : Pattern) (value : Reading → Except Fault α) (a : α) (cs : List Char)
    (sorts : pattern.all Item.isMoment = true)
    (read : (pattern.read cs).bind value = .ok a) : ∀ c ∈ cs, isMomentChar c = true := by
  obtain ⟨r, whole, _⟩ := (except_bind_ok_iff _ _ _).mp read
  exact pattern_chars pattern sorts {} r cs whole

theorem first_chars {α : Type} (value : Reading → Except Fault α) (patterns : List Pattern) (a : α) (cs : List Char)
    (sorts : patterns.all (fun pattern => pattern.all Item.isMoment) = true)
    (read : firstReading value patterns cs = some a) : ∀ c ∈ cs, isMomentChar c = true := by
  obtain ⟨pattern, member, found⟩ := List.exists_of_findSome?_eq_some read
  cases whole : (pattern.read cs).bind value with
  | error fault => simp [whole, Except.toOption] at found
  | ok other => exact read_pattern_chars pattern value other cs (List.all_eq_true.mp sorts pattern member) whole

theorem date_chars (cs : List Char) (d : Date) (read : readDate cs = .ok d) : ∀ c ∈ cs, isMomentChar c = true :=
  read_pattern_chars datePattern _ d cs (by decide) read

theorem timestamp_chars (cs : List Char) (d : OffsetDateTime) (read : readTimestamp cs = .ok d) :
    ∀ c ∈ cs, isMomentChar c = true := read_pattern_chars timestampPattern _ d cs (by decide) read

theorem date_time_chars (cs : List Char) (d : DateTime) (read : readDateTime cs = .ok d) :
    ∀ c ∈ cs, isMomentChar c = true := by
  unfold readDateTime at read
  split at read
  · rename_i found
    exact first_chars _ dateTimePatterns _ cs (by decide) found
  · split at read
    · rename_i stamp
      exact timestamp_chars cs _ stamp
    · obtain ⟨day, whole, _⟩ := (except_map_ok_iff _ _ _).mp read
      exact date_chars cs day whole

theorem offset_date_time_chars (cs : List Char) (d : OffsetDateTime) (read : readOffsetDateTime cs = .ok d) :
    ∀ c ∈ cs, isMomentChar c = true := by
  unfold readOffsetDateTime at read
  split at read
  · rename_i stamp
    exact timestamp_chars cs _ stamp
  · split at read
    · rename_i found
      exact first_chars _ offsetPatterns _ cs (by decide) found
    · obtain ⟨local_, whole, _⟩ := (except_bind_ok_iff _ _ _).mp read
      exact date_time_chars cs local_ whole

end Calendar

end TokenFilter
