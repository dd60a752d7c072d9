namespace Phrasebook

/-- An outcome as a computation that does nothing else. -/
def ofResult {m : Type → Type} [Monad m] {ε α : Type} : Except ε α → ExceptT ε m α
  | .ok a => pure a
  | .error e => throw e

/-- A relation between the computations of two monads that sequencing respects. A program that is
written for every monad keeps each such relation, so a relation has to be shown for the primitive
steps of the program only. -/
structure Correspondence (m n : Type → Type) [Monad m] [Monad n] where
  Rel : {α : Type} → m α → n α → Prop
  pure : ∀ {α : Type} (a : α), Rel (pure a) (pure a)
  bind : ∀ {α β : Type} {x : m α} {y : n α} {f : α → m β} {g : α → n β},
    Rel x y → (∀ a, Rel (f a) (g a)) → Rel (x >>= f) (y >>= g)

namespace Correspondence

/-- Computations of one monad are related to themselves only. -/
def equality (m : Type → Type) [Monad m] : Correspondence m m where
  Rel x y := x = y
  pure _ := rfl
  bind := by
    intro α β x y f g hx hf
    subst hx
    exact congrArg (x >>= ·) (funext hf)

variable {m n : Type → Type} [Monad m] [Monad n] {ε α : Type}

/-- Failing with the error corresponds to doing the same, whatever the result should have been. -/
def Throws (R : Correspondence (ExceptT ε m) (ExceptT ε n)) (e : ε) : Prop :=
  ∀ α : Type, R.Rel (α := α) (throw e) (throw e)

theorem equality_throws (e : ε) : (equality (ExceptT ε m)).Throws e := fun _ => rfl

theorem rel_ofResult (R : Correspondence (ExceptT ε m) (ExceptT ε n)) (x : Except ε α)
    (h : ∀ e, x = .error e → R.Throws e) : R.Rel (ofResult x) (ofResult x) := by
  cases x with
  | ok a => exact R.pure a
  | error e => exact h e rfl α

variable (R : Correspondence m n)

/-- Computations that may fail correspond when they do so with their outcomes as results. -/
def except (ε : Type) : Correspondence (ExceptT ε m) (ExceptT ε n) where
  Rel x y := R.Rel x.run y.run
  pure a := R.pure (Except.ok a)
  bind := by
    intro α β x y f g hx hf
    refine R.bind hx fun outcome => ?_
    cases outcome with
    | ok a => exact hf a
    | error e => exact R.pure (Except.error e)

theorem except_throws (e : ε) : (R.except ε).Throws e := fun _ => R.pure (Except.error e)

theorem except_lift [LawfulMonad m] [LawfulMonad n] {x : m α} {y : n α} (h : R.Rel x y) :
    (R.except ε).Rel (ExceptT.lift x) (ExceptT.lift y) := by
  simp only [except, ExceptT.run, ExceptT.lift, ExceptT.mk, map_eq_pure_bind]
  exact R.bind h fun a => R.pure (Except.ok a)

theorem except_adapt [LawfulMonad m] [LawfulMonad n] {ε' : Type} (f : ε → ε') {x : ExceptT ε m α}
    {y : ExceptT ε n α} (h : (R.except ε).Rel x y) :
    (R.except ε').Rel (ExceptT.adapt f x) (ExceptT.adapt f y) := by
  change R.Rel (Except.mapError f <$> x.run) (Except.mapError f <$> y.run)
  rw [map_eq_pure_bind, map_eq_pure_bind]
  exact R.bind h fun outcome => R.pure (outcome.mapError f)

end Correspondence

end Phrasebook
