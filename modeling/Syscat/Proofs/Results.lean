/-
Module: Syscat.Proofs.Results
Purpose: Steps that may fail: what they give once it is known how the first of them ends, and in which
  ways several of them fail, from those in which each one does.
Main exports: ok_bind, error_bind, exists_of_bind_eq_ok, FailsOnly, FailsOnly.bind_iff,
  FailsOnly.map_iff, FailsOnly.ite_iff
-/
namespace Syscat

universe u
variable {ε α β : Type u}

@[simp]
theorem ok_bind (a : α) (f : α → Except ε β) : (Except.ok a >>= f) = f a := rfl

@[simp]
theorem error_bind (e : ε) (f : α → Except ε β) : (Except.error e >>= f) = .error e := rfl

@[simp]
theorem pure_eq_ok (a : α) : (pure a : Except ε α) = .ok a := rfl

@[simp]
theorem map_ok (f : α → β) (a : α) : (Except.ok a : Except ε α).map f = .ok (f a) := rfl

@[simp]
theorem map_error (f : α → β) (e : ε) : (Except.error e).map f = .error e := rfl

@[simp]
theorem mapError_ok {ε' : Type u} (f : ε → ε') (a : α) :
    (Except.ok a : Except ε α).mapError f = .ok a := rfl

@[simp]
theorem mapError_error {ε' : Type u} (f : ε → ε') (e : ε) :
    (Except.error e : Except ε α).mapError f = .error (f e) := rfl

/-- A step after which all went well went well itself. -/
theorem exists_of_bind_eq_ok {x : Except ε α} {f : α → Except ε β} {b : β} (done : x >>= f = .ok b) :
    ∃ a, x = .ok a ∧ f a = .ok b := by
  cases x with
  | error e => cases done
  | ok a => exact ⟨a, rfl, done⟩

/-- A result that is changed was there before. -/
theorem exists_of_map_eq_ok {x : Except ε α} {f : α → β} {b : β} (done : x.map f = .ok b) :
    ∃ a, x = .ok a ∧ f a = b := by
  cases x with
  | error e => cases done
  | ok a => exact ⟨a, rfl, Except.ok.inj done⟩

/-- A step is known to go well once its result is. -/
theorem eq_ok_of_toOption {x : Except ε α} {a : α} (found : x.toOption = some a) : x = .ok a := by
  cases x with
  | error e => cases found
  | ok b => exact congrArg Except.ok (Option.some.inj found)

/-- A step that went well has a result. -/
theorem exists_eq_ok_of_isSome {x : Except ε α} (success : x.toOption.isSome = true) :
    ∃ a, x = .ok a := by
  obtain ⟨a, found⟩ := Option.isSome_iff_exists.mp success
  exact ⟨a, eq_ok_of_toOption found⟩

/-- A step that fails in certain ways only. -/
def FailsOnly (P : ε → Prop) (x : Except ε α) : Prop :=
  ∀ e, x = .error e → P e

namespace FailsOnly

variable {P : ε → Prop}

@[simp]
theorem ok (a : α) : FailsOnly P (.ok a) := nofun

@[simp]
theorem error_iff {e : ε} : FailsOnly P (.error e : Except ε α) ↔ P e := by
  refine ⟨fun only => only e rfl, ?_⟩
  rintro allowed _ ⟨⟩
  exact allowed

theorem error {e : ε} (allowed : P e) : FailsOnly P (.error e : Except ε α) :=
  error_iff.mpr allowed

/-- Steps one after the other fail as the first one does or as those behind it do. -/
@[simp]
theorem bind_iff {x : Except ε α} {f : α → Except ε β} :
    FailsOnly P (x >>= f) ↔ FailsOnly P x ∧ ∀ a, x = .ok a → FailsOnly P (f a) := by
  cases x with
  | error e => simp
  | ok a => simp

theorem bind {x : Except ε α} {f : α → Except ε β} (first : FailsOnly P x)
    (next : ∀ a, FailsOnly P (f a)) : FailsOnly P (x >>= f) :=
  bind_iff.mpr ⟨first, fun a _ => next a⟩

/-- What is made of a result does not fail. -/
@[simp]
theorem map_iff {x : Except ε α} {f : α → β} : FailsOnly P (x.map f) ↔ FailsOnly P x := by
  cases x with
  | error e => simp only [map_error, error_iff]
  | ok a => simp only [map_ok, ok]

/-- A failure that is changed is changed into one of the ways. -/
@[simp]
theorem mapError_iff {ε' : Type u} {x : Except ε' α} {f : ε' → ε} :
    FailsOnly P (x.mapError f) ↔ FailsOnly (fun e => P (f e)) x := by
  cases x with
  | error e => simp only [mapError_error, error_iff]
  | ok a => simp only [mapError_ok, ok]

@[simp]
theorem anyway (x : Except ε α) : FailsOnly (fun _ => True) x := fun _ _ => trivial

/-- A choice fails as its two sides do. -/
@[simp]
theorem ite_iff {c : Prop} [Decidable c] {x y : Except ε α} :
    FailsOnly P (if c then x else y) ↔ (c → FailsOnly P x) ∧ (¬ c → FailsOnly P y) := by
  split
  case isTrue holds => simp [holds]
  case isFalse fails => simp [fails]

/-- Items that are handled one by one fail as each of them does. -/
theorem mapM {f : α → Except ε β} (each : ∀ a, FailsOnly P (f a)) (items : List α) :
    FailsOnly P (items.mapM f) := by
  induction items with
  | nil => simp
  | cons a rest ih => simp [each, ih]

theorem foldlM {f : β → α → Except ε β} (each : ∀ b a, FailsOnly P (f b a)) (b : β) (items : List α) :
    FailsOnly P (items.foldlM f b) := by
  induction items generalizing b with
  | nil => simp
  | cons a rest ih => simp [each, ih]

end FailsOnly

end Syscat
