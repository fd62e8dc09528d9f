import QueryAssist.Session.State
/-!
# Actions

Requests are carried out in actions on the state. An action may fail, and nothing takes back what it
has written by then.
-/

namespace QueryAssist.Session

abbrev Action := ExceptT Failure (StateM Session)

namespace Action

variable {α β : Type}

/-- What an action comes to, and the state that it leaves. -/
def outcome (action : Action α) (s : Session) : Except Failure α × Session :=
  StateT.run (ExceptT.run action) s

@[simp] theorem outcome_pure (a : α) (s : Session) : outcome (pure a) s = (.ok a, s) := rfl

@[simp] theorem outcome_lift (x : Except Failure α) (s : Session) :
    outcome (monadLift x) s = (x, s) := rfl

@[simp] theorem outcome_get (s : Session) : outcome get s = (.ok s, s) := rfl

@[simp] theorem outcome_modify (f : Session → Session) (s : Session) :
    outcome (modify f) s = (.ok (), f s) := rfl

theorem outcome_bind (action : Action α) (next : α → Action β) (s : Session) :
    outcome (action >>= next) s =
      match outcome action s with
      | (.ok a, t) => outcome (next a) t
      | (.error cause, t) => (.error cause, t) := by
  rw [outcome, ExceptT.run_bind, StateT.run_bind, outcome]
  rcases StateT.run (ExceptT.run action) s with ⟨cause | a, t⟩ <;> rfl

theorem outcome_map (f : α → β) (action : Action α) (s : Session) :
    outcome (f <$> action) s = (f <$> (outcome action s).1, (outcome action s).2) := by
  rw [map_eq_pure_bind, outcome_bind]
  rcases outcome action s with ⟨cause | a, t⟩ <;> rfl

theorem outcome_map_eq_error_iff {f : α → β} {action : Action α} {s t : Session}
    {cause : Failure} :
    outcome (f <$> action) s = (.error cause, t) ↔ outcome action s = (.error cause, t) := by
  rw [outcome_map]
  rcases outcome action s with ⟨found | a, u⟩ <;> simp [Functor.map, Except.map]

theorem outcome_tryCatch (action : Action α) (handler : Failure → Action α) (s : Session) :
    outcome (tryCatch action handler) s =
      match outcome action s with
      | (.ok a, t) => (.ok a, t)
      | (.error cause, t) => outcome (handler cause) t := by
  rw [outcome, ExceptT.run_tryCatch, StateT.run_bind, outcome]
  rcases StateT.run (ExceptT.run action) s with ⟨cause | a, t⟩ <;> rfl

end Action

end QueryAssist.Session
