import OptIn.Fault

/-!
# Actions

An action reads and changes a state and gives a value or a fault. What it did to the state before a
fault stays done. `Action.run_bind` says how actions follow one another; `Action.within` performs an
action on a part of a larger state.
-/

namespace OptIn

/-- An **action** on states `σ` with results `α`. -/
def Action (σ α : Type) : Type := σ → Except Fault α × σ

namespace Action

variable {σ τ α β : Type}

/-- The result of an action and the state behind it. -/
def run (x : Action σ α) (s : σ) : Except Fault α × σ := x s

instance : Monad (Action σ) where
  pure a := fun s => (.ok a, s)
  bind x f := fun s =>
    match x.run s with
    | (.ok a, t) => (f a).run t
    | (.error e, t) => (.error e, t)

instance : LawfulMonad (Action σ) := LawfulMonad.mk' _
  (fun x => by
    funext s
    simp only [Functor.map, run]
    rcases x s with ⟨_ | _, _⟩ <;> rfl)
  (fun _ _ => rfl)
  (fun x _ _ => by
    funext s
    simp only [bind, run]
    rcases x s with ⟨_ | _, _⟩ <;> rfl)

instance : MonadExceptOf Fault (Action σ) where
  throw e := fun s => (.error e, s)
  tryCatch x handle := fun s =>
    match x.run s with
    | (.ok a, t) => (.ok a, t)
    | (.error e, t) => (handle e).run t

instance : MonadStateOf σ (Action σ) where
  get := fun s => (.ok s, s)
  set t := fun _ => (.ok (), t)
  modifyGet f := fun s => (.ok (f s).1, (f s).2)

/-- A result that is there already, or a fault. -/
def ofExcept (x : Except Fault α) : Action σ α := fun s => (x, s)

instance : MonadLift (Except Fault) (Action σ) where
  monadLift := ofExcept

/-- Performs an action on a part of the state. -/
def within (part : τ → σ) (put : σ → τ → τ) (x : Action σ α) : Action τ α := fun t =>
  let (r, s) := x.run (part t)
  (r, put s t)

/-- Performs an action and gives its fault as a value. -/
def attempt (x : Action σ α) : Action σ (Except Fault α) := fun s =>
  let (r, t) := x.run s
  (.ok r, t)

/-! ### Running actions -/

@[simp] theorem run_pure (a : α) (s : σ) : (pure a : Action σ α).run s = (.ok a, s) := rfl

theorem run_bind (x : Action σ α) (f : α → Action σ β) (s : σ) :
    (x >>= f).run s =
      match x.run s with
      | (.ok a, t) => (f a).run t
      | (.error e, t) => (.error e, t) := rfl

@[simp] theorem run_throw (e : Fault) (s : σ) :
    (throw e : Action σ α).run s = (.error e, s) := rfl

@[simp] theorem run_ofExcept (x : Except Fault α) (s : σ) : (ofExcept x).run s = (x, s) := rfl

@[simp] theorem run_get (s : σ) : (get : Action σ σ).run s = (.ok s, s) := rfl

@[simp] theorem run_modify (f : σ → σ) (s : σ) :
    (modify f : Action σ PUnit).run s = (.ok ⟨⟩, f s) := rfl

@[simp] theorem run_within (part : τ → σ) (put : σ → τ → τ) (x : Action σ α) (t : τ) :
    (x.within part put).run t = ((x.run (part t)).1, put (x.run (part t)).2 t) := rfl

@[simp] theorem run_attempt (x : Action σ α) (s : σ) :
    x.attempt.run s = (.ok (x.run s).1, (x.run s).2) := rfl

/-- An action that comes to its end hands its result on. -/
theorem run_bind_ok {x : Action σ α} {f : α → Action σ β} {s t : σ} {a : α}
    (h : x.run s = (.ok a, t)) : (x >>= f).run s = (f a).run t := by
  rw [run_bind, h]

/-- What follows a fault is not done. -/
theorem run_bind_error {x : Action σ α} {f : α → Action σ β} {s t : σ} {e : Fault}
    (h : x.run s = (.error e, t)) : (x >>= f).run s = (.error e, t) := by
  rw [run_bind, h]

/-- Two actions that come to their end together do so one after the other. -/
theorem exists_of_run_bind_ok {x : Action σ α} {f : α → Action σ β} {s u : σ} {b : β}
    (h : (x >>= f).run s = (.ok b, u)) :
    ∃ a t, x.run s = (.ok a, t) ∧ (f a).run t = (.ok b, u) := by
  rcases hx : x.run s with ⟨e | a, t⟩
  · rw [run_bind_error hx] at h
    cases h
  · rw [run_bind_ok hx] at h
    exact ⟨a, t, rfl, h⟩

theorem run_eq_of_fst {x : Action σ α} {s : σ} {y : Except Fault α} (h : (x.run s).1 = y) :
    x.run s = (y, (x.run s).2) := Prod.ext h rfl

end Action

end OptIn
