import Seedbed.Log

/-!
# Actions on a state

An action takes a state and leaves a result, a state and lines of the log. It leaves a state also when it fails: what was done
before the failure stays done. Two actions one after the other are one action, in which the second runs on the state that the
first leaves, unless the first fails.
-/

namespace Seedbed

/-- What an action leaves behind. -/
structure Outcome (ε σ α : Type) where
  result : Except ε α
  state : σ
  log : List LogLine

/-- Something that is done to a state, and may fail with an error of `ε`. -/
def Action (ε σ α : Type) : Type := σ → Outcome ε σ α

namespace Action

variable {ε δ σ τ α β : Type}

/-- The action that does nothing and has the given result. -/
def done (a : α) : Action ε σ α := fun s => ⟨.ok a, s, []⟩

/-- The action that does nothing and fails. -/
def fail (e : ε) : Action ε σ α := fun s => ⟨.error e, s, []⟩

/-- The action that writes a line to the log. -/
def say (level : Level) (source : Source) (text : String) : Action ε σ Unit := fun s => ⟨.ok (), s, [⟨level, source, text⟩]⟩

/-- One action and then, if it does not fail, another one that depends on its result. -/
def andThen (first : Action ε σ α) (second : α → Action ε σ β) : Action ε σ β := fun s =>
  match first s with
  | ⟨.error e, s, log⟩ => ⟨.error e, s, log⟩
  | ⟨.ok a, s, log⟩ =>
    match second a s with
    | ⟨result, s, more⟩ => ⟨result, s, log ++ more⟩

instance : Monad (Action ε σ) where
  pure := done
  bind := andThen

/-- The action with the error of its failure changed. -/
def mapError (f : ε → δ) (action : Action ε σ α) : Action δ σ α := fun s =>
  match action s with
  | ⟨.error e, s, log⟩ => ⟨.error (f e), s, log⟩
  | ⟨.ok a, s, log⟩ => ⟨.ok a, s, log⟩

/-- The action and, if it fails, another one that depends on the error. -/
def recover (handle : ε → Action δ σ α) (action : Action ε σ α) : Action δ σ α := fun s =>
  match action s with
  | ⟨.ok a, s, log⟩ => ⟨.ok a, s, log⟩
  | ⟨.error e, s, log⟩ =>
    match handle e s with
    | ⟨result, s, more⟩ => ⟨result, s, log ++ more⟩

/-- The action done to a part of a larger state. -/
def within (part : τ → σ) (put : σ → τ → τ) (action : Action ε σ α) : Action ε τ α := fun t =>
  match action (part t) with
  | ⟨result, s, log⟩ => ⟨result, put s t, log⟩

/-- The result as an action: its error is the action's failure. -/
def ofResult : Except ε α → Action ε σ α
  | .ok a => done a
  | .error e => fail e

theorem bind_apply (first : Action ε σ α) (second : α → Action ε σ β) (s : σ) :
    (first >>= second) s = first.andThen second s := rfl

/-- After a failure nothing more is done. -/
theorem bind_error {first : Action ε σ α} {second : α → Action ε σ β} {s t : σ} {e : ε} {log : List LogLine}
    (h : first s = ⟨.error e, t, log⟩) : (first >>= second) s = ⟨.error e, t, log⟩ := by
  rw [bind_apply, andThen, h]

/-- After a success the second action runs on the state that the first one leaves. -/
theorem bind_ok {first : Action ε σ α} {second : α → Action ε σ β} {s t : σ} {a : α} {log : List LogLine}
    (h : first s = ⟨.ok a, t, log⟩) :
    (first >>= second) s = ⟨(second a t).result, (second a t).state, log ++ (second a t).log⟩ := by
  rw [bind_apply, andThen, h]

end Action

end Seedbed
