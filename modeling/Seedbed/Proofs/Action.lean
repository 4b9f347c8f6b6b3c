import Seedbed.Action

/-!
# What actions leave

`Leaves action s result t` says that an action on the state `s` has a result, a value or an error, and leaves the state `t`,
whatever it writes to the log. There is one rule for each way in which actions are made of others, and an action leaves one result
and one state only (`Leaves.unique`); statements about runs are derived from the rules, without opening an action. `Alike` compares
what two actions leave on two kinds of state in the same way, with one rule for each way in which both are made of others.
-/

namespace Seedbed.Action

variable {ε δ σ τ α β : Type} {s t u : σ} {a : α} {e : ε}

/-- Whether an action on a state has a result and leaves a state. -/
structure Leaves (action : Action ε σ α) (s : σ) (result : Except ε α) (t : σ) : Prop where
  result : (action s).result = result
  state : (action s).state = t

namespace Leaves

/-- Every action leaves something on every state. -/
theorem self (action : Action ε σ α) (s : σ) : action.Leaves s (action s).result (action s).state := ⟨rfl, rfl⟩

/-- Every action fails or has a value. -/
theorem error_or_ok (action : Action ε σ α) (s : σ) :
    (∃ e t, action.Leaves s (.error e) t) ∨ ∃ a t, action.Leaves s (.ok a) t := by
  cases h : (action s).result with
  | error e => exact .inl ⟨e, _, h, rfl⟩
  | ok a => exact .inr ⟨a, _, h, rfl⟩

/-- An action leaves one result and one state only. -/
theorem unique {action : Action ε σ α} {r r' : Except ε α} (h : action.Leaves s r t) (h' : action.Leaves s r' u) :
    r = r' ∧ t = u :=
  ⟨h.result.symm.trans h'.result, h.state.symm.trans h'.state⟩

/-- The outcome of an action that leaves something, with the log that it writes. -/
theorem outcome {action : Action ε σ α} {r : Except ε α} (h : action.Leaves s r t) : action s = ⟨r, t, (action s).log⟩ := by
  rw [← h.result, ← h.state]

theorem pure (a : α) (s : σ) : (Pure.pure a : Action ε σ α).Leaves s (.ok a) s := ⟨rfl, rfl⟩

theorem fail (e : ε) (s : σ) : (Action.fail e : Action ε σ α).Leaves s (.error e) s := ⟨rfl, rfl⟩

theorem say (level : Level) (source : Source) (text : String) (s : σ) :
    (Action.say level source text : Action ε σ Unit).Leaves s (.ok ()) s := ⟨rfl, rfl⟩

/-- After a success the second action runs on the state that the first one leaves. -/
theorem bind {first : Action ε σ α} {second : α → Action ε σ β} {r : Except ε β} (h : first.Leaves s (.ok a) t)
    (h' : (second a).Leaves t r u) : (first >>= second).Leaves s r u := by
  constructor
  · rw [bind_ok h.outcome, h'.result]
  · rw [bind_ok h.outcome, h'.state]

/-- After a failure nothing more is done. -/
theorem bind_error {first : Action ε σ α} {second : α → Action ε σ β} (h : first.Leaves s (.error e) t) :
    (first >>= second).Leaves s (.error e) t := by
  constructor <;> rw [Action.bind_error h.outcome]

/-- What two actions do as the first of two, on a state on which they do the same. -/
theorem bind_congr_left {first first' : Action ε σ α} (h : first s = first' s) (second : α → Action ε σ β) :
    (first >>= second) s = (first' >>= second) s := by
  rw [bind_apply, bind_apply, andThen, andThen, h]

/-- What two actions do as the second of two, when they do the same after the first one. -/
theorem bind_congr_right {first : Action ε σ α} {second second' : α → Action ε σ β} (h : first.Leaves s (.ok a) t)
    (h' : second a t = second' a t) : (first >>= second) s = (first >>= second') s := by
  rw [bind_ok h.outcome, bind_ok h.outcome, h']

theorem mapError {action : Action ε σ α} {r : Except ε α} (h : action.Leaves s r t) (f : ε → δ) :
    (action.mapError f).Leaves s (r.mapError f) t := by
  cases r <;> constructor <;> rw [Action.mapError, h.outcome] <;> rfl

/-- An action that succeeds has nothing to recover from. -/
theorem recover_ok {action : Action ε σ α} (h : action.Leaves s (.ok a) t) (handle : ε → Action δ σ α) :
    (action.recover handle).Leaves s (.ok a) t := by
  constructor <;> rw [Action.recover, h.outcome]

/-- After a failure the second action runs on the state that the first one leaves. -/
theorem recover_error {action : Action ε σ α} {handle : ε → Action δ σ α} {r : Except δ α} (h : action.Leaves s (.error e) t)
    (h' : (handle e).Leaves t r u) : (action.recover handle).Leaves s r u := by
  constructor <;> rw [Action.recover, h.outcome]
  · exact h'.result
  · exact h'.state

theorem within {action : Action ε σ α} {part : τ → σ} {put : σ → τ → τ} {x : τ} {r : Except ε α}
    (h : action.Leaves (part x) r t) : (action.within part put).Leaves x r (put t x) := by
  constructor <;> rw [Action.within, h.outcome]

theorem ofResult (r : Except ε α) (s : σ) : (Action.ofResult r).Leaves s r s := by
  cases r <;> exact ⟨rfl, rfl⟩

end Leaves

/-! ## Two actions -/

/-- Whether two results are the same, or two errors that are related. -/
def SameResult (related : ε → δ → Prop) : Except ε α → Except δ α → Prop
  | .ok a, .ok b => a = b
  | .error e, .error f => related e f
  | _, _ => False

theorem SameResult.of_eq {r r' : Except ε α} (h : r = r') : SameResult Eq r r' := by
  subst h
  cases r <;> rfl

/-- Where only an error itself is related to it, two results are the same only if they are equal. -/
theorem SameResult.eq {related : ε → ε → Prop} {r r' : Except ε α} (h : SameResult related r r')
    (hrelated : ∀ e f, related e f → e = f) : r = r' := by
  cases r <;> cases r'
  · exact congrArg Except.error (hrelated _ _ h)
  · exact h.elim
  · exact h.elim
  · exact congrArg Except.ok h

/-- Whether two actions have the same result, or fail with related errors, and leave related states. -/
structure Alike (after : σ → τ → Prop) (related : ε → δ → Prop) (action : Action ε σ α) (action' : Action δ τ α) (s : σ) (x : τ) :
    Prop where
  result : SameResult related (action s).result (action' x).result
  state : after (action s).state (action' x).state

namespace Alike

variable {ε' δ' : Type} {σ' τ' : Type} {after between : σ → τ → Prop} {related : ε → δ → Prop} {x : τ}

/-- Two actions that leave something are alike as that is. -/
theorem of_leaves {action : Action ε σ α} {action' : Action δ τ α} {r : Except ε α} {r' : Except δ α} {y : τ} (h : action.Leaves s r t)
    (h' : action'.Leaves x r' y) (hresult : SameResult related r r') (hstate : after t y) : Alike after related action action' s x := by
  constructor
  · rwa [h.result, h'.result]
  · rwa [h.state, h'.state]

/-- Two alike actions fail both, or have the same value. -/
theorem error_or_ok {action : Action ε σ α} {action' : Action δ τ α} (h : Alike after related action action' s x) :
    (∃ e f t y, action.Leaves s (.error e) t ∧ action'.Leaves x (.error f) y ∧ related e f ∧ after t y) ∨
      ∃ a t y, action.Leaves s (.ok a) t ∧ action'.Leaves x (.ok a) y ∧ after t y := by
  obtain ⟨hresult, hstate⟩ := h
  rcases Leaves.error_or_ok action s with ⟨e, t, hleaves⟩ | ⟨a, t, hleaves⟩
  · rcases Leaves.error_or_ok action' x with ⟨f, y, hleaves'⟩ | ⟨b, y, hleaves'⟩
    · rw [hleaves.result, hleaves'.result] at hresult
      rw [hleaves.state, hleaves'.state] at hstate
      exact .inl ⟨e, f, t, y, hleaves, hleaves', hresult, hstate⟩
    · rw [hleaves.result, hleaves'.result] at hresult
      exact hresult.elim
  · rcases Leaves.error_or_ok action' x with ⟨f, y, hleaves'⟩ | ⟨b, y, hleaves'⟩
    · rw [hleaves.result, hleaves'.result] at hresult
      exact hresult.elim
    · rw [hleaves.result, hleaves'.result] at hresult
      rw [hleaves.state, hleaves'.state] at hstate
      cases hresult
      exact .inr ⟨a, t, y, hleaves, hleaves', hstate⟩

/-- What two alike actions leave may be told in another way. -/
theorem imp {action : Action ε σ α} {action' : Action δ τ α} (h : Alike between related action action' s x)
    (himp : between (action s).state (action' x).state → after (action s).state (action' x).state) :
    Alike after related action action' s x := ⟨h.result, himp h.state⟩

theorem pure (a : α) (h : after s x) :
    Alike after related (Pure.pure a : Action ε σ α) (Pure.pure a : Action δ τ α) s x := ⟨rfl, h⟩

theorem fail {e : ε} {f : δ} (he : related e f) (h : after s x) :
    Alike after related (Action.fail e : Action ε σ α) (Action.fail f : Action δ τ α) s x := ⟨he, h⟩

/-- Two actions that tell the same to the log first. -/
theorem said {action : Unit → Action ε σ α} {action' : Unit → Action δ τ α} {level : Level} {source : Source} {text : String}
    (h : Alike after related (action ()) (action' ()) s x) :
    Alike after related (Action.say level source text >>= action) (Action.say level source text >>= action') s x :=
  of_leaves ((Leaves.say level source text s).bind (.self _ _)) ((Leaves.say level source text x).bind (.self _ _)) h.result h.state

/-- Two actions each followed by another one: what the first two leave has to be enough for what is to be left, if they fail, and for
the second two, if they do not. -/
theorem bind {first : Action ε σ α} {first' : Action δ τ α} {second : α → Action ε σ β} {second' : α → Action δ τ β}
    (h : Alike between related first first' s x) (hfails : ∀ t y, between t y → after t y)
    (hsecond : ∀ a t y, between t y → Alike after related (second a) (second' a) t y) :
    Alike after related (first >>= second) (first' >>= second') s x := by
  rcases h.error_or_ok with ⟨e, f, t, y, hfirst, hfirst', hrelated, hstate⟩ | ⟨a, t, y, hfirst, hfirst', hstate⟩
  · exact of_leaves hfirst.bind_error hfirst'.bind_error hrelated (hfails _ _ hstate)
  · have hnext := hsecond a _ _ hstate
    exact of_leaves (hfirst.bind (.self (second a) _)) (hfirst'.bind (.self (second' a) _)) hnext.result hnext.state

theorem mapError {related' : ε' → δ' → Prop} {action : Action ε σ α} {action' : Action δ τ α} {f : ε → ε'} {g : δ → δ'}
    (h : Alike after related action action' s x) (hf : ∀ e d, related e d → related' (f e) (g d)) :
    Alike after related' (action.mapError f) (action'.mapError g) s x := by
  rcases h.error_or_ok with ⟨e, d, t, y, hleaves, hleaves', hrelated, hstate⟩ | ⟨a, t, y, hleaves, hleaves', hstate⟩
  · exact of_leaves (hleaves.mapError f) (hleaves'.mapError g) (hf _ _ hrelated) hstate
  · exact of_leaves (hleaves.mapError f) (hleaves'.mapError g) rfl hstate

theorem within {after' : σ' → τ' → Prop} {action : Action ε σ α} {action' : Action δ τ α} {part : σ' → σ} {put : σ → σ' → σ'}
    {part' : τ' → τ} {put' : τ → τ' → τ'} {s : σ'} {x : τ'} (h : Alike after related action action' (part s) (part' x))
    (hput : ∀ t y, after t y → after' (put t s) (put' y x)) :
    Alike after' related (action.within part put) (action'.within part' put') s x :=
  of_leaves (Leaves.self action (part s)).within (Leaves.self action' (part' x)).within h.result (hput _ _ h.state)

end Alike

end Seedbed.Action
