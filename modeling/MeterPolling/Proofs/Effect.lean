namespace MeterPolling

@[simp] theorem id_bind {α β : Type} (x : Id α) (f : α → Id β) : (x >>= f) = f x := rfl

@[simp] theorem id_pure {α : Type} (x : α) : (pure x : Id α) = x := rfl

@[simp] theorem id_map {α β : Type} (f : α → β) (x : Id α) :
    Id.instMonad.toApplicative.toFunctor.map f x = f x := rfl

section Run

variable {σ δ α β : Type} {a : α} {d e : δ} {s t : σ}

theorem bind_run {act : StateT δ (StateM σ) α} {next : α → StateT δ (StateM σ) β}
    (h : act d s = ((a, e), t)) : (act >>= next) d s = next a e t := by
  calc (act >>= next) d s = next (act d s).1.1 (act d s).1.2 (act d s).2 := rfl
    _ = next a e t := by rw [h]

theorem lift_run {act : StateM σ α} (h : act s = (a, t)) :
    (StateT.lift act : StateT δ (StateM σ) α) d s = ((a, d), t) := by
  calc (StateT.lift act : StateT δ (StateM σ) α) d s = (((act s).1, d), (act s).2) := rfl
    _ = ((a, d), t) := by rw [h]

end Run

end MeterPolling
