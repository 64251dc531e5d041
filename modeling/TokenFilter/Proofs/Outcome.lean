import Mathlib.Data.List.Forall2
import TokenFilter.Logged

set_option autoImplicit false

namespace TokenFilter

namespace Logged

variable {ω ε α β : Type}

theorem result_pure (a : α) : (pure a : Logged ω ε α).result = .ok a := rfl

theorem result_log (events : List ω) : (log events : Logged ω ε Unit).result = .ok () := rfl

theorem result_of_except (result : Except ε α) : (ofExcept result : Logged ω ε α).result = result := rfl

theorem result_bind (x : Logged ω ε α) (next : α → Logged ω ε β) :
    (x >>= next).result = x.result.bind fun a => (next a).result := by
  change (Logged.bind x next).result = _
  unfold Logged.bind
  cases x.result <;> rfl

theorem result_map (x : Logged ω ε α) (f : α → β) : (f <$> x).result = x.result.map f := by
  rw [← bind_pure_comp, result_bind]
  cases x.result <;> rfl

theorem result_map_m (f : α → Logged ω ε β) (xs : List α) :
    (xs.mapM f).result = xs.mapM fun x => (f x).result := by
  induction xs with
  | nil => rfl
  | cons x xs ih =>
      simp only [List.mapM_cons, result_bind, ih, result_pure]
      rfl

end Logged

section Traversal

variable {ε α β γ : Type}

theorem map_m_cons_error (f : α → Except ε β) (x : α) (xs : List α) (e : ε) (failed : f x = .error e) :
    (x :: xs).mapM f = .error e := by
  rw [List.mapM_cons, failed]
  rfl

theorem map_m_cons_ok (f : α → Except ε β) (x : α) (xs : List α) (y : β) (passed : f x = .ok y) :
    (x :: xs).mapM f = (xs.mapM f).map (y :: ·) := by
  rw [List.mapM_cons, passed]
  cases xs.mapM f <;> rfl

theorem except_map_ok_iff (g : α → β) (x : Except ε α) (b : β) :
    x.map g = .ok b ↔ ∃ a, x = .ok a ∧ g a = b := by
  cases x <;> simp [Except.map]

theorem except_map_error_iff (g : α → β) (x : Except ε α) (e : ε) : x.map g = .error e ↔ x = .error e := by
  cases x <;> simp [Except.map]

theorem except_bind_ok_iff (x : Except ε α) (f : α → Except ε β) (b : β) :
    x.bind f = .ok b ↔ ∃ a, x = .ok a ∧ f a = .ok b := by
  cases x <;> simp [Except.bind]

theorem map_m_map (f : α → Except ε β) (g : β → γ) (xs : List α) :
    (xs.mapM fun x => (f x).map g) = (xs.mapM f).map (List.map g) := by
  induction xs with
  | nil => rfl
  | cons x xs ih =>
      cases first : f x with
      | error e =>
          rw [map_m_cons_error f x xs e first, map_m_cons_error _ x xs e (by simp [first, Except.map])]
          rfl
      | ok y =>
          rw [map_m_cons_ok f x xs y first, map_m_cons_ok _ x xs (g y) (by simp [first, Except.map]), ih]
          cases xs.mapM f <;> rfl

theorem map_m_ok_iff (f : α → Except ε β) (xs : List α) (ys : List β) :
    xs.mapM f = .ok ys ↔ List.Forall₂ (fun x y => f x = .ok y) xs ys := by
  induction xs generalizing ys with
  | nil => cases ys <;> simp [pure, Except.pure]
  | cons x xs ih =>
      cases first : f x with
      | error e => simp [map_m_cons_error f x xs e first, List.forall₂_cons_left_iff, first]
      | ok y =>
          rw [map_m_cons_ok f x xs y first, except_map_ok_iff, List.forall₂_cons_left_iff]
          constructor
          · intro passed
            obtain ⟨rest, tail, rfl⟩ := passed
            exact ⟨y, rest, first, (ih rest).mp tail, rfl⟩
          · intro passed
            obtain ⟨y', rest, head, tail, rfl⟩ := passed
            have same : y = y' := Except.ok.inj (first.symm.trans head)
            subst same
            exact ⟨rest, (ih rest).mpr tail, rfl⟩

theorem map_m_error_iff (f : α → Except ε β) (xs : List α) (e : ε) :
    xs.mapM f = .error e ↔
      ∃ before x after, xs = before ++ x :: after ∧ (∀ y ∈ before, ∃ b, f y = .ok b) ∧ f x = .error e := by
  induction xs with
  | nil => simp [pure, Except.pure]
  | cons x xs ih =>
      cases first : f x with
      | error failure =>
          rw [map_m_cons_error f x xs failure first]
          constructor
          · intro same
            cases same
            exact ⟨[], x, xs, rfl, by simp, first⟩
          · intro someFailure
            obtain ⟨before, y, after, split, passed, failed⟩ := someFailure
            cases before with
            | nil =>
                obtain ⟨rfl, rfl⟩ := List.cons.inj split
                rw [Except.error.inj (first.symm.trans failed)]
            | cons z before =>
                obtain ⟨rfl, rfl⟩ := List.cons.inj split
                obtain ⟨b, ok⟩ := passed x (by simp)
                cases first.symm.trans ok
      | ok b =>
          rw [map_m_cons_ok f x xs b first, except_map_error_iff, ih]
          constructor
          · intro someFailure
            obtain ⟨before, y, after, rfl, passed, failed⟩ := someFailure
            refine ⟨x :: before, y, after, rfl, ?_, failed⟩
            simpa using ⟨⟨b, first⟩, passed⟩
          · intro someFailure
            obtain ⟨before, y, after, split, passed, failed⟩ := someFailure
            cases before with
            | nil =>
                obtain ⟨rfl, rfl⟩ := List.cons.inj split
                cases first.symm.trans failed
            | cons z before =>
                obtain ⟨rfl, rfl⟩ := List.cons.inj split
                exact ⟨before, y, after, rfl, fun w member => passed w (by simp [member]), failed⟩

theorem map_m_cons_error_iff (f : α → Except ε β) (x : α) (xs : List α) (e : ε) :
    (x :: xs).mapM f = .error e ↔ f x = .error e ∨ (∀ other, f x ≠ .error other) ∧ xs.mapM f = .error e := by
  cases first : f x with
  | error other => simp [map_m_cons_error f x xs other first]
  | ok y => simp [map_m_cons_ok f x xs y first, except_map_error_iff]

theorem map_m_append_error_iff (f : α → Except ε β) (xs ys : List α) (e : ε) :
    (xs ++ ys).mapM f = .error e ↔
      xs.mapM f = .error e ∨ (∀ other, xs.mapM f ≠ .error other) ∧ ys.mapM f = .error e := by
  rw [List.mapM_append]
  cases xs.mapM f with
  | error other => simp [bind, Except.bind]
  | ok first => cases ys.mapM f <;> simp [bind, Except.bind, pure, Except.pure]

theorem map_m_fails_iff (f : α → Except ε β) (xs : List α) :
    (∃ e, xs.mapM f = .error e) ↔ ∃ x ∈ xs, ∃ e, f x = .error e := by
  induction xs with
  | nil => simp [pure, Except.pure]
  | cons x xs ih =>
      cases first : f x with
      | error e => simp [map_m_cons_error f x xs e first, first]
      | ok y => simp [map_m_cons_ok f x xs y first, except_map_error_iff, first, ih]

theorem forall_mem_left {R : α → β → Prop} {xs : List α} {ys : List β} (related : List.Forall₂ R xs ys) (x : α)
    (member : x ∈ xs) : ∃ y ∈ ys, R x y := by
  induction related with
  | nil => cases member
  | cons here _ ih =>
      rcases List.mem_cons.mp member with rfl | later
      · exact ⟨_, by simp, here⟩
      · obtain ⟨y, inside, holds⟩ := ih later
        exact ⟨y, by simp [inside], holds⟩

theorem forall_mem_right {R : α → β → Prop} {xs : List α} {ys : List β} (related : List.Forall₂ R xs ys) (y : β)
    (member : y ∈ ys) : ∃ x ∈ xs, R x y := forall_mem_left related.flip y member

theorem forall_filter_map {R : α → β → Prop} {shape : α → γ → Prop} (kept : α → Bool) (f : β → Option γ)
    {xs : List α} {ys : List β} (related : List.Forall₂ R xs ys)
    (same : ∀ x y, R x y → (f y).isSome = kept x) (shaped : ∀ x y, R x y → ∀ z, f y = some z → shape x z) :
    List.Forall₂ shape (xs.filter kept) (ys.filterMap f) := by
  induction related with
  | nil => exact .nil
  | @cons x y xs ys here _ ih =>
      have dropped := same x y here
      cases built : f y with
      | none =>
          rw [built] at dropped
          simpa [built, ← dropped] using ih
      | some z =>
          rw [built] at dropped
          simpa [built, ← dropped] using ⟨shaped x y here z built, ih⟩

theorem filter_map_m_error_iff (p : α → Bool) (f : α → Except ε β) (xs : List α) (e : ε) :
    (xs.filter p).mapM f = .error e ↔
      ∃ before x after, xs = before ++ x :: after ∧ (∀ y ∈ before, p y = true → ∃ b, f y = .ok b) ∧
        p x = true ∧ f x = .error e := by
  rw [map_m_error_iff]
  constructor
  · intro someFailure
    obtain ⟨kept, x, others, split, passed, failed⟩ := someFailure
    obtain ⟨before, rest, rfl, rfl, tail⟩ := List.filter_eq_append_iff.mp split
    obtain ⟨skipped, after, rfl, unmet, met, rfl⟩ := List.filter_eq_cons_iff.mp tail
    refine ⟨before ++ skipped, x, after, by simp, ?_, met, failed⟩
    intro y member holds
    rcases List.mem_append.mp member with early | late
    · exact passed y (List.mem_filter.mpr ⟨early, holds⟩)
    · exact absurd holds (unmet y late)
  · intro someFailure
    obtain ⟨before, x, after, rfl, passed, met, failed⟩ := someFailure
    refine ⟨before.filter p, x, after.filter p, by simp [met], ?_, failed⟩
    intro y member
    obtain ⟨inside, holds⟩ := List.mem_filter.mp member
    exact passed y inside holds

theorem except_map_map (x : Except ε α) (f : α → β) (g : β → γ) : (x.map f).map g = x.map fun a => g (f a) := by
  cases x <;> rfl

-- Elements that pass and give nothing may be left out, and others replaced by such as give the same.
theorem map_m_tidied (f : α → Except ε β) (g : β → Option γ) (tidy : α → Option α)
    (gone : ∀ x, tidy x = none → (f x).map g = .ok none)
    (kept : ∀ x y, tidy x = some y → (f y).map g = (f x).map g) (xs : List α) :
    ((xs.filterMap tidy).mapM f).map (List.filterMap g) = (xs.mapM f).map (List.filterMap g) := by
  induction xs with
  | nil => rfl
  | cons x xs ih =>
      cases tidied : tidy x with
      | none =>
          obtain ⟨b, passed, nothing⟩ := (except_map_ok_iff g _ _).mp (gone x tidied)
          rw [List.filterMap_cons_none tidied, map_m_cons_ok f x xs b passed, ih, except_map_map]
          simp only [List.filterMap_cons_none nothing]
      | some y =>
          have same := kept x y tidied
          rw [List.filterMap_cons_some tidied]
          cases first : f x with
          | error e =>
              rw [first] at same
              rw [map_m_cons_error f x xs e first, map_m_cons_error f y _ e ((except_map_error_iff g _ e).mp same)]
          | ok b =>
              rw [first] at same
              obtain ⟨b', passed, alike⟩ := (except_map_ok_iff g _ _).mp same
              have heads : ∀ c bs, (c :: bs).filterMap g = (g c).toList ++ bs.filterMap g := by
                intro c bs
                cases named : g c <;> simp [named]
              rw [map_m_cons_ok f x xs b first, map_m_cons_ok f y _ b' passed, except_map_map, except_map_map]
              simp only [heads, alike]
              rw [← except_map_map, ih, except_map_map]

end Traversal

end TokenFilter
