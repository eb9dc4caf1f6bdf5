import ChestMenu.Notice

/-!
# Laws of steps that give notices

A step with notices is a value with a list beside it. The value of several steps is what
the steps come to without their notices.
-/

namespace ChestMenu.Noted

variable {α β : Type}

@[simp] theorem value_pure (a : α) : (pure a : Noted α).value = a := rfl

@[simp] theorem value_bind (step : Noted α) (next : α → Noted β) :
    (step >>= next).value = (next step.value).value := rfl

@[simp] protected theorem pure_bind (a : α) (next : α → Noted β) : pure a >>= next = next a := rfl

/-- When each step gives its element back quietly, gathering gives the list back. -/
theorem gather_map {step : α → Noted (Option β)} {f : β → α} {elements : List β}
    (quiet : ∀ element ∈ elements, step (f element) = pure (some element)) :
    gather step (elements.map f) = pure elements := by
  induction elements with
  | nil => rfl
  | cons first rest inductionHypothesis =>
    obtain ⟨head, others⟩ := List.forall_mem_cons.mp quiet
    rw [List.map_cons, gather, head, inductionHypothesis others]
    rfl

/-- Only the steps for the elements there are count in gathering. -/
theorem gather_congr {step other : α → Noted (Option β)} {elements : List α}
    (same : ∀ element ∈ elements, step element = other element) :
    gather step elements = gather other elements := by
  induction elements with
  | nil => rfl
  | cons first rest inductionHypothesis =>
    obtain ⟨head, others⟩ := List.forall_mem_cons.mp same
    rw [gather, gather, head, inductionHypothesis others]

end ChestMenu.Noted
