import Vertx.Js.Value

/-!
# Programs that leave a part of the state alone

`JsM.Keeps view p` says that the program `p` leaves what `view` shows of the state as it was,
whether it returns or throws.  The rules follow the ways in which programs are put together.
-/

namespace Vertx.JsM

variable {σ τ α β : Type}

/-- The state after two programs, the second of which runs when the first returns. -/
theorem stateAfter_bind (p : JsM σ α) (k : α → JsM σ β) (s : σ) :
    (p >>= k).stateAfter s = match p.run s with
      | .ok a t => (k a).stateAfter t
      | .error _ t => t := by
  unfold stateAfter
  rw [EStateM.run_bind]
  cases p.run s <;> rfl

/-- A program whose result is left aside. -/
theorem stateAfter_discard (p : JsM σ α) (s : σ) :
    (p >>= fun _ => (pure () : JsM σ Unit)).stateAfter s = p.stateAfter s := by
  rw [stateAfter_bind]
  unfold stateAfter
  cases p.run s <;> rfl

theorem stateAfter_ofExcept (x : Except JsError α) (s : σ) :
    (ofExcept x : JsM σ α).stateAfter s = s := by
  cases x <;> rfl

/-- What is thrown is caught in the state that it was thrown in. -/
theorem stateAfter_tryCatch (p : JsM σ α) (h : JsError → JsM σ α) (s : σ) :
    (tryCatch p h).stateAfter s = match p.run s with
      | .ok _ t => t
      | .error e t => (h e).stateAfter t := by
  unfold stateAfter
  change (match EStateM.tryCatch p h s with | .ok _ t => t | .error _ t => t) = _
  unfold EStateM.tryCatch EStateM.run
  cases p s <;> rfl

/-- The program leaves what `view` shows of the state as it was. -/
def Keeps (view : σ → τ) (p : JsM σ α) : Prop := ∀ s, view (p.stateAfter s) = view s

section

variable {view : σ → τ}

theorem keeps_pure (a : α) : Keeps view (pure a : JsM σ α) := fun _ => rfl

theorem keeps_ofExcept (x : Except JsError α) : Keeps view (ofExcept x : JsM σ α) := by
  intro s
  rw [stateAfter_ofExcept]

theorem Keeps.bind {p : JsM σ α} {k : α → JsM σ β} (hp : Keeps view p)
    (hk : ∀ a, Keeps view (k a)) : Keeps view (p >>= k) := by
  intro s
  have hs := hp s
  rw [stateAfter_bind]
  unfold stateAfter at hs
  cases h : p.run s with
  | ok a t =>
    rw [h] at hs
    exact (hk a t).trans hs
  | error e t =>
    rw [h] at hs
    exact hs

/-- What the first program leaves is what both leave. -/
theorem Keeps.after {k : α → JsM σ β} (hk : ∀ a, Keeps view (k a)) (p : JsM σ α) (s : σ) :
    view ((p >>= k).stateAfter s) = view (p.stateAfter s) := by
  rw [stateAfter_bind]
  unfold stateAfter
  cases p.run s with
  | ok a t => exact hk a t
  | error e t => rfl

end

end Vertx.JsM
