/-! # Results of steps that may fail -/
namespace BytecodeStore
variable {ε ε' α β : Type}

theorem ok_of_bind {x : Except ε α} {next : α → Except ε β} {b : β} (h : x >>= next = .ok b) :
    ∃ a, x = .ok a ∧ next a = .ok b := by
  cases x with
  | error e => cases h
  | ok a => exact ⟨a, rfl, h⟩

theorem bind_of_ok {x : Except ε α} {next : α → Except ε β} {a : α} (h : x = .ok a) : x >>= next = next a := by
  rw [h]
  rfl

theorem mapError_bind (x : Except ε α) (next : α → Except ε β) (f : ε → ε') :
    (x >>= next).mapError f = x.mapError f >>= fun a => (next a).mapError f := by
  cases x <;> rfl

theorem mapError_eq_ok {x : Except ε α} {f : ε → ε'} {a : α} : x.mapError f = .ok a ↔ x = .ok a := by
  cases x with
  | error e => exact ⟨nofun, nofun⟩
  | ok b => exact ⟨fun h => by cases h; rfl, fun h => by cases h; rfl⟩

end BytecodeStore
