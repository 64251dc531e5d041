set_option autoImplicit false

namespace TokenFilter

-- The events up to the end or up to the failure, and the result.
structure Logged (ω ε α : Type) where
  events : List ω
  result : Except ε α

namespace Logged

variable {ω ε α β γ : Type}

def ofExcept (result : Except ε α) : Logged ω ε α := ⟨[], result⟩

def log (events : List ω) : Logged ω ε Unit := ⟨events, .ok ()⟩

protected def pure (a : α) : Logged ω ε α := ⟨[], .ok a⟩

protected def bind (x : Logged ω ε α) (f : α → Logged ω ε β) : Logged ω ε β :=
  match x.result with
  | .error e => ⟨x.events, .error e⟩
  | .ok a => ⟨x.events ++ (f a).events, (f a).result⟩

instance : Monad (Logged ω ε) where
  pure := Logged.pure
  bind := Logged.bind

theorem pure_bind (a : α) (f : α → Logged ω ε β) : (Logged.pure a).bind f = f a := by
  simp [Logged.pure, Logged.bind]

theorem bind_pure (x : Logged ω ε α) : x.bind Logged.pure = x := by
  obtain ⟨events, result⟩ := x
  cases result <;> simp [Logged.pure, Logged.bind]

theorem bind_assoc (x : Logged ω ε α) (f : α → Logged ω ε β) (g : β → Logged ω ε γ) :
    (x.bind f).bind g = x.bind fun a => (f a).bind g := by
  obtain ⟨events, result⟩ := x
  cases result with
  | error e => rfl
  | ok a =>
    simp only [Logged.bind]
    cases (f a).result <;> simp

instance : LawfulMonad (Logged ω ε) := LawfulMonad.mk'
  _ bind_pure pure_bind bind_assoc

end Logged

end TokenFilter
