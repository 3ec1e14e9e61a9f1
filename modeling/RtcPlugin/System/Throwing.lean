/-! Computations that read and write a state and may throw.

A throw keeps what was written before it, and a `catch` sees that state. The
lemmas run each construct on a state; a method's own equation is then a `simp`
with its definition. -/
namespace RtcPlugin

/-- A computation on states `σ` that may throw a message. -/
abbrev Throwing (σ α : Type) := EStateM String σ α

namespace Throwing

variable {σ α β : Type}

@[simp] theorem pure_run (a : α) (s : σ) : (pure a : Throwing σ α) s = .ok a s := rfl

@[simp] theorem throw_run (e : String) (s : σ) : (throw e : Throwing σ α) s = .error e s := rfl

@[simp] theorem bind_run (x : Throwing σ α) (f : α → Throwing σ β) (s : σ) :
    (x >>= f) s = match x s with
      | .ok a t => f a t
      | .error e t => .error e t := by
  show EStateM.bind x f s = _
  unfold EStateM.bind
  cases x s <;> rfl

@[simp] theorem map_run (f : α → β) (x : Throwing σ α) (s : σ) :
    (f <$> x) s = match x s with
      | .ok a t => .ok (f a) t
      | .error e t => .error e t := by
  show EStateM.map f x s = _
  unfold EStateM.map
  cases x s <;> rfl

@[simp] theorem discard_run (x : Throwing σ α) (s : σ) :
    (discard x : Throwing σ PUnit) s = match x s with
      | .ok _ t => .ok PUnit.unit t
      | .error e t => .error e t := by
  show EStateM.map (fun _ => PUnit.unit) x s = _
  unfold EStateM.map
  cases x s <;> rfl

@[simp] theorem get_run (s : σ) : (get : Throwing σ σ) s = .ok s s := rfl

@[simp] theorem modify_run (f : σ → σ) (s : σ) : (modify f : Throwing σ PUnit) s = .ok PUnit.unit (f s) := rfl

@[simp] theorem ite_run (c : Prop) [Decidable c] (x y : Throwing σ α) (s : σ) :
    (if c then x else y) s = if c then x s else y s := by
  split <;> rfl

/-- A `catch` sees the state in which the body threw. -/
@[simp] theorem tryCatch_run (x : Throwing σ α) (handler : String → Throwing σ α) (s : σ) :
    (tryCatch x handler) s = match x s with
      | .ok a t => .ok a t
      | .error e t => handler e t := by
  show EStateM.tryCatch x handler s = _
  unfold EStateM.tryCatch
  cases x s <;> rfl

end Throwing
end RtcPlugin
