import BytecodeStore.Storage.InPlace

/-! # Running work in place

What a computation in place leaves is told step by step: every step goes on from what those before it have left, and
after one that failed nothing follows.
-/
namespace BytecodeStore

/-- A failure that comes before anything is done or reported. -/
def Abandoned.untouched {β : Type} (e : GrowthError) (b : β) : Abandoned β := ⟨⟨e, #[]⟩, b⟩

/-- The same outcome, of what `f` makes of the thing worked on. -/
def Outcome.image {β γ : Type} (f : β → γ) : Outcome β → Outcome γ
  | .ok (b, growths) => .ok (f b, growths)
  | .error a => .error ⟨a.toAppendFailure, f a.left⟩

namespace InPlace
variable {m : Type → Type} [Monad m] {β γ δ : Type}

/-- What a computation gives and leaves, on what is there and reported so far. -/
def after (s : β × Array Growth) (x : InPlace m β γ) : m (Except GrowthError γ × (β × Array Growth)) := x.run.run s

variable (s : β × Array Growth)

theorem after_bind (x : InPlace m β γ) (next : γ → InPlace m β δ) :
    after s (x >>= next) = after s x >>= fun r =>
      match r with
      | (.ok a, t) => after t (next a)
      | (.error e, t) => pure (.error e, t) := by
  have step : after s (x >>= next) = after s x >>= fun r => ExceptT.bindCont next r.1 r.2 := rfl
  rw [step]
  congr 1
  funext ⟨r, t⟩
  cases r <;> rfl

@[simp] theorem after_pure (a : γ) : after s (pure a : InPlace m β γ) = pure (.ok a, s) := rfl

@[simp] theorem after_throw (e : GrowthError) : after s (throw e : InPlace m β γ) = pure (.error e, s) := rfl

theorem on_eq (x : InPlace m β Unit) (b : β) : x.on b = outcome <$> after (b, #[]) x := rfl

variable [LawfulMonad m]

theorem after_lift_state (x : StateT (β × Array Growth) m γ) :
    after s (liftM x : InPlace m β γ) = (fun r => (.ok r.1, r.2)) <$> x.run s := by
  simp only [after, liftM, monadLift, MonadLift.monadLift, ExceptT.run_lift]
  exact StateT.run_map ..

@[simp] theorem after_now : after s (now : InPlace m β β) = pure (.ok s.1, s) := by
  have work : (now : InPlace m β β) = liftM (get : StateT (β × Array Growth) m _) >>= fun s => pure s.1 := rfl
  rw [work, after_bind, after_lift_state, StateT.run_get, map_pure, pure_bind]
  rfl

theorem on_now {rest : β → InPlace m β Unit} {b : β} : (now >>= rest).on b = (rest b).on b := by
  rw [on_eq, after_bind, after_now, pure_bind, on_eq]

@[simp] theorem after_put (b : β) : after s (put b : InPlace m β Unit) = pure (.ok (), (b, s.2)) := by
  have work : (put b : InPlace m β Unit) = liftM (modify fun s => (b, s.2) : StateT (β × Array Growth) m _) := rfl
  rw [work, after_lift_state, StateT.run_modify, map_pure]

@[simp] theorem after_report (g : Growth) :
    after s (report g : InPlace m β Unit) = pure (.ok (), (s.1, s.2.push g)) := by
  have work : (report g : InPlace m β Unit) =
      liftM (modify fun s => (s.1, s.2.push g) : StateT (β × Array Growth) m _) := rfl
  rw [work, after_lift_state, StateT.run_modify, map_pure]

end InPlace

end BytecodeStore
