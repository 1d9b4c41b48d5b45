import SqlTemplate.Files.Host

/-!
# Runs

What an action does is what its run from a state gives: an answer or an error, and the state
that it ends in. Two actions in a row run one after the other, the second from where the first
ends, and not at all if the first fails.
-/

namespace SqlTemplate

section

variable {σ ε α β : Type} {s s' : σ}

/-- A run goes on from where its first part ends. -/
theorem run_bind_of_run {x : StateM σ α} {a : α} (h : x.run s = (a, s'))
    (f : α → StateM σ β) : (x >>= f).run s = (f a).run s' := by
  rw [StateT.run_bind, h]
  rfl

theorem run_lift_of_run {x : StateM σ α} {a : α} (h : x.run s = (a, s')) :
    ((liftM x : ExceptT ε (StateM σ) α)).run.run s = (.ok a, s') := by
  show (Except.ok <$> x).run s = (.ok a, s')
  rw [StateT.run_map, h]
  rfl

/-- After a success the second action runs from where the first one ends. -/
theorem run_bind_of_ok {x : ExceptT ε (StateM σ) α} {a : α} (h : x.run.run s = (.ok a, s'))
    (f : α → ExceptT ε (StateM σ) β) : (x >>= f).run.run s = (f a).run.run s' := by
  rw [ExceptT.run_bind, run_bind_of_run h]

/-- After a failure nothing runs any more, and what the first action did stays done. -/
theorem run_bind_of_error {x : ExceptT ε (StateM σ) α} {e : ε}
    (h : x.run.run s = (.error e, s')) (f : α → ExceptT ε (StateM σ) β) :
    (x >>= f).run.run s = (.error e, s') := by
  rw [ExceptT.run_bind, run_bind_of_run h]
  rfl

end

end SqlTemplate
