/-
When computations that may fail succeed.
-/
namespace Sdwan

variable {ε δ α β : Type} {x : Except ε α}

theorem ok_map_iff {f : α → β} {b : β} : x.map f = .ok b ↔ ∃ a, x = .ok a ∧ f a = b := by
  cases x <;> simp [Except.map]

theorem ok_bind_iff {f : α → Except ε β} {b : β} :
    (x >>= f) = .ok b ↔ ∃ a, x = .ok a ∧ f a = .ok b := by
  cases x <;> simp [bind, Except.bind]

theorem mapError_eq_ok_iff {f : ε → δ} {a : α} : x.mapError f = .ok a ↔ x = .ok a := by
  cases x with
  | ok _ =>
      constructor <;> intro h
      all_goals
        cases h
        rfl
  | error _ => exact ⟨nofun, nofun⟩

end Sdwan
