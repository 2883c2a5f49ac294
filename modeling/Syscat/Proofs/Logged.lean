/-
Module: Syscat.Proofs.Logged
Purpose: Laws of computations that leave notices. What a computation gives and what it leaves behind
  follow from its steps one by one, and so does of which sort its notices and its failures are.
Main exports: Agree, Logged.result_bind, Logged.Confined, Logged.Confined.bind
-/
import Syscat.Notice

namespace Syscat

section
variable {α β : Type}

/-! ### Results that may be failures -/

/-- A sequence of two steps gives a result exactly if both steps do. -/
theorem bind_eq_ok_iff {x : Except Failure α} {f : α → Except Failure β} {b : β} :
    x >>= f = .ok b ↔ ∃ a, x = .ok a ∧ f a = .ok b := by
  cases x with
  | ok a => exact ⟨fun ok => ⟨a, rfl, ok⟩, fun ⟨_, rfl, ok⟩ => ok⟩
  | error e => exact ⟨nofun, fun ⟨_, ok, _⟩ => nomatch ok⟩

/-- A sequence of two steps fails if the first does, or the second after the first. -/
theorem bind_eq_error_iff {x : Except Failure α} {f : α → Except Failure β} {e : Failure} :
    x >>= f = .error e ↔ x = .error e ∨ ∃ a, x = .ok a ∧ f a = .error e := by
  cases x with
  | ok a => exact ⟨fun failed => .inr ⟨a, rfl, failed⟩, by rintro (⟨⟨⟩⟩ | ⟨_, ⟨⟩, failed⟩); exact failed⟩
  | error e' => exact ⟨fun failed => .inl (by cases failed; rfl), by rintro (⟨⟨⟩⟩ | ⟨_, ⟨⟩, _⟩); rfl⟩

theorem mapError_eq_ok_iff {x : Except Failure α} {g : Failure → Failure} {a : α} :
    x.mapError g = .ok a ↔ x = .ok a := by
  cases x with
  | ok b => exact Iff.rfl
  | error e => exact ⟨nofun, nofun⟩

end

/-- Two results are the same failure, or neither is a failure and they are related. -/
inductive Agree {α β : Type} (R : α → β → Prop) :
    Except Failure α → Except Failure β → Prop where
  | ok {a : α} {b : β} (related : R a b) : Agree R (.ok a) (.ok b)
  | error (f : Failure) : Agree R (.error f) (.error f)

namespace Agree

section
variable {α β γ δ : Type} {R : α → β → Prop} {S : γ → δ → Prop}

/-- Results that agree go on to agree if what follows does on related results. -/
theorem bind {x : Except Failure α} {y : Except Failure β} {f : α → Except Failure γ}
    {g : β → Except Failure δ} (first : Agree R x y) (next : ∀ a b, R a b → Agree S (f a) (g b)) :
    Agree S (x >>= f) (y >>= g) := by
  cases first with
  | ok related => exact next _ _ related
  | error e => exact .error e

/-- Equal results agree, and what follows only has to agree on a result that is given. -/
theorem bind_eq {x : Except Failure α} {y : Except Failure α} {f : α → Except Failure γ}
    {g : α → Except Failure δ} (same : x = y) (next : ∀ a, x = .ok a → Agree S (f a) (g a)) :
    Agree S (x >>= f) (y >>= g) := by
  subst same
  cases x with
  | ok a => exact next a rfl
  | error e => exact .error e

theorem mapError {x : Except Failure α} {y : Except Failure β} (agree : Agree R x y)
    (h : Failure → Failure) : Agree R (x.mapError h) (y.mapError h) := by
  cases agree with
  | ok related => exact .ok related
  | error e => exact .error (h e)

theorem mono {S : α → β → Prop} {x : Except Failure α} {y : Except Failure β} (agree : Agree R x y)
    (weaker : ∀ a b, R a b → S a b) : Agree S x y := by
  cases agree with
  | ok related => exact .ok (weaker _ _ related)
  | error e => exact .error e

/-- Results that agree up to equality are equal. -/
theorem eq {x y : Except Failure α} (agree : Agree Eq x y) : x = y := by
  cases agree with
  | ok same => rw [same]
  | error e => rfl

theorem of_eq {x y : Except Failure α} (same : x = y) : Agree Eq x y := by
  subst same
  cases x with
  | ok a => exact .ok rfl
  | error e => exact .error e

end

end Agree

namespace Logged

section
variable {α β : Type}

/-! ### Results and notices of the steps -/

@[simp] theorem result_pure (a : α) : (pure a : Logged α).result = .ok a := rfl

@[simp] theorem result_ofExcept (e : Except Failure α) : (ofExcept e).result = e := rfl

@[simp] theorem result_fail (f : Failure) : (fail f : Logged α).result = .error f := rfl

@[simp] theorem result_note (n : Notice) : (note n).result = .ok () := rfl

@[simp] theorem result_mapFailure (g : Failure → Failure) (x : Logged α) :
    (x.mapFailure g).result = x.result.mapError g := rfl

@[simp] theorem result_bind (x : Logged α) (f : α → Logged β) :
    (x >>= f).result = x.result >>= fun a => (f a).result := by
  change (Logged.bind x f).result = _
  unfold Logged.bind
  cases x.result <;> rfl

/-- A computation that succeeds goes on with its result. -/
theorem result_bind_of_ok {x : Logged α} {a : α} (f : α → Logged β) (ok : x.result = .ok a) :
    (x >>= f).result = (f a).result := by
  rw [result_bind, ok]
  rfl

theorem result_onlyIf (condition : Bool) (x : Logged (Option α)) :
    (onlyIf condition x).result = if condition then x.result else .ok none := by
  cases condition <;> rfl

@[simp] theorem notices_pure (a : α) : (pure a : Logged α).notices = [] := rfl

@[simp] theorem notices_ofExcept (e : Except Failure α) : (ofExcept e).notices = [] := rfl

@[simp] theorem notices_note (n : Notice) : (note n).notices = [n] := rfl

@[simp] theorem notices_mapFailure (g : Failure → Failure) (x : Logged α) :
    (x.mapFailure g).notices = x.notices := rfl

/-- A computation that succeeds leaves its notices in front of those of the next one. -/
theorem notices_bind_of_ok {x : Logged α} {a : α} (f : α → Logged β) (ok : x.result = .ok a) :
    (x >>= f).notices = x.notices ++ (f a).notices := by
  change (Logged.bind x f).notices = _
  simp only [Logged.bind, ok]

/-- A computation that fails is the end. -/
theorem notices_bind_of_error {x : Logged α} {e : Failure} (f : α → Logged β)
    (error : x.result = .error e) : (x >>= f).notices = x.notices := by
  change (Logged.bind x f).notices = _
  simp only [Logged.bind, error]

/-- A result that is there is passed on. -/
theorem ofExcept_ok_bind (a : α) (f : α → Logged β) : (ofExcept (.ok a) >>= f) = f a := rfl

/-- A computation without notices is as good as its steps one by one. -/
theorem ofExcept_bind (x : Except Failure α) (f : α → Except Failure β) :
    ofExcept (x >>= f) = ofExcept x >>= fun a => ofExcept (f a) := by
  cases x <;> rfl

/-! ### Sorts of notices and failures -/

/-- A computation leaves only notices of one sort and fails only with failures of one sort. -/
structure Confined (sort : Notice → Prop) (kind : Failure → Prop) (x : Logged α) : Prop where
  notices : ∀ n ∈ x.notices, sort n
  failure : ∀ f, x.result = .error f → kind f

variable {sort : Notice → Prop} {kind : Failure → Prop}

theorem Confined.pure (a : α) : Confined sort kind (pure a : Logged α) :=
  ⟨nofun, nofun⟩

theorem Confined.note {n : Notice} (allowed : sort n) : Confined sort kind (note n) :=
  ⟨fun _ left => List.mem_singleton.mp left ▸ allowed, nofun⟩

theorem Confined.fail {f : Failure} (allowed : kind f) : Confined sort kind (fail f : Logged α) :=
  ⟨nofun, fun _ failed => Except.error.inj failed ▸ allowed⟩

theorem Confined.ofExcept {e : Except Failure α} (allowed : ∀ f, e = .error f → kind f) :
    Confined sort kind (ofExcept e) :=
  ⟨nofun, allowed⟩

theorem Confined.mono {kind' : Failure → Prop} {x : Logged α} (confined : Confined sort kind x)
    (weaker : ∀ f, kind f → kind' f) : Confined sort kind' x :=
  ⟨confined.notices, fun f failed => weaker f (confined.failure f failed)⟩

theorem Confined.andThen {x : Logged α} {f : α → Logged β} (first : Confined sort kind x)
    (next : ∀ a, x.result = .ok a → Confined sort kind (f a)) : Confined sort kind (x >>= f) := by
  cases ended : x.result with
  | error e =>
      refine ⟨fun n left => ?_, fun g failed => ?_⟩
      · rw [notices_bind_of_error f ended] at left
        exact first.notices n left
      · rw [result_bind, ended] at failed
        cases failed
        exact first.failure e ended
  | ok a =>
      refine ⟨fun n left => ?_, fun g failed => ?_⟩
      · rw [notices_bind_of_ok f ended] at left
        exact (List.mem_append.mp left).elim (first.notices n) ((next a ended).notices n)
      · rw [result_bind, ended] at failed
        exact (next a ended).failure g failed

theorem Confined.bind {x : Logged α} {f : α → Logged β} (first : Confined sort kind x)
    (next : ∀ a, Confined sort kind (f a)) : Confined sort kind (x >>= f) :=
  first.andThen fun a _ => next a

theorem Confined.onlyIf (condition : Bool) {x : Logged (Option α)} (confined : Confined sort kind x) :
    Confined sort kind (onlyIf condition x) := by
  cases condition
  · exact .pure none
  · exact confined

theorem Confined.mapFailure {x : Logged α} {g : Failure → Failure} (confined : Confined sort kind x)
    (keeps : ∀ f, kind f → kind (g f)) : Confined sort kind (x.mapFailure g) := by
  refine ⟨confined.notices, fun f failed => ?_⟩
  rw [result_mapFailure] at failed
  cases ended : x.result with
  | ok a =>
      rw [ended] at failed
      cases failed
  | error e =>
      rw [ended] at failed
      cases failed
      exact keeps e (confined.failure e ended)

end

end Logged

end Syscat
