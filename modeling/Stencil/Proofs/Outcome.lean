import Stencil.Error

/-!
This module contains how a sequence of two computations that may fail ends: well if both do, and
otherwise with the error of the first one that fails.
-/

namespace Stencil

namespace Outcome

variable {ε α β : Type}

@[simp]
theorem pure_eq (a : α) : (pure a : Except ε α) = .ok a := by
  rfl

@[simp]
theorem ok_bind (a : α) (f : α → Except ε β) : (Except.ok a >>= f) = f a := by
  rfl

@[simp]
theorem error_bind (e : ε) (f : α → Except ε β) : (Except.error e >>= f) = .error e := by
  rfl

theorem bind_eq_ok {x : Except ε α} {f : α → Except ε β} {b : β} :
    (x >>= f) = .ok b ↔ ∃ a, x = .ok a ∧ f a = .ok b := by
  cases x with
  | error e => simp
  | ok a => simp

theorem bind_eq_error {x : Except ε α} {f : α → Except ε β} {e : ε} :
    (x >>= f) = .error e ↔ x = .error e ∨ ∃ a, x = .ok a ∧ f a = .error e := by
  cases x with
  | error e => simp
  | ok a => simp

theorem bind_pure_eq_ok {x : Except ε α} {f : α → β} {b : β} :
    (x >>= fun a => pure (f a)) = .ok b ↔ ∃ a, x = .ok a ∧ f a = b := by
  simp [bind_eq_ok]

theorem bind_pure_eq_error {x : Except ε α} {f : α → β} {e : ε} :
    (x >>= fun a => pure (f a)) = .error e ↔ x = .error e := by
  simp [bind_eq_error]

theorem map_eq_ok {x : Except ε α} {f : α → β} {b : β} :
    x.map f = .ok b ↔ ∃ a, x = .ok a ∧ f a = b := by
  cases x with
  | error e => simp [Except.map]
  | ok a => simp [Except.map]

theorem map_eq_error {x : Except ε α} {f : α → β} {e : ε} : x.map f = .error e ↔ x = .error e := by
  cases x with
  | error e => simp [Except.map]
  | ok a => simp [Except.map]

@[simp]
theorem throw_eq (e : ε) : (throw e : Except ε α) = .error e := by
  rfl

/--
The computation gives a good value, or fails with an error that was to be expected.
-/
def Ends (good : α → Prop) (fault : ε → Prop) : Except ε α → Prop
  | .ok a => good a
  | .error e => fault e

@[simp]
theorem ends_ok {good : α → Prop} {fault : ε → Prop} {a : α} :
    Ends good fault (.ok a) ↔ good a :=
  Iff.rfl

@[simp]
theorem ends_error {good : α → Prop} {fault : ε → Prop} {e : ε} :
    Ends good fault (.error e : Except ε α) ↔ fault e :=
  Iff.rfl

@[simp]
theorem ends_bind {good : β → Prop} {fault : ε → Prop} {x : Except ε α} {f : α → Except ε β} :
    Ends good fault (x >>= f) ↔ Ends (fun a => Ends good fault (f a)) fault x := by
  cases x <;> rfl

@[simp]
theorem ends_map {good : β → Prop} {fault : ε → Prop} {x : Except ε α} {f : α → β} :
    Ends good fault (x.map f) ↔ Ends (fun a => good (f a)) fault x := by
  cases x <;> rfl

theorem Ends.bind {mid : α → Prop} {good : β → Prop} {fault : ε → Prop} {x : Except ε α}
    {f : α → Except ε β} (hx : Ends mid fault x) (hf : ∀ a, mid a → Ends good fault (f a)) :
    Ends good fault (x >>= f) := by
  cases x with
  | ok a => exact hf a hx
  | error e => exact hx

theorem Ends.mono {good good' : α → Prop} {fault fault' : ε → Prop} {x : Except ε α}
    (h : Ends good fault x) (hgood : ∀ a, good a → good' a) (hfault : ∀ e, fault e → fault' e) :
    Ends good' fault' x := by
  cases x with
  | ok a => exact hgood a h
  | error e => exact hfault e h

end Outcome

end Stencil
