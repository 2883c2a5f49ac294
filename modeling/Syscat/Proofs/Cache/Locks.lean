/-
Module: Syscat.Proofs.Cache.Locks
Purpose: The locks and marks of direct fetches against the call stack. Each cache, copies included, is
  locked and marked as fetching exactly while a direct fetch for it is on the stack, and is empty as
  long. A direct fetch leaves all of them as it found them, and tasks do not touch them.
Main exports: Balanced, Balanced.beginFetch, Balanced.finishFetch, Balanced.run, Balanced.get,
  Balanced.play
-/
import Syscat.Cache.Run

namespace Syscat

/-- Each cache of a session is locked and marked exactly if its object is on the call stack, and those of
the objects on the stack are empty. -/
structure Balanced (stack : List Nat) (s : Session) : Prop where
  present : ∀ i ∈ stack, i < s.objects.length
  locked : ∀ j, j < s.objects.length → (s.object j).cache.locked = decide (j ∈ stack)
  fetching : ∀ j, j < s.objects.length → (s.object j).cache.fetching = decide (j ∈ stack)
  empty : ∀ i ∈ stack, (s.object i).cache.stored = none

/-- A change of a cache that leaves the lock and the mark of direct fetches alone. -/
structure ChildCache.KeepsLock (change : ChildCache → ChildCache) : Prop where
  locked : ∀ c, (change c).locked = c.locked
  fetching : ∀ c, (change c).fetching = c.fetching

section
variable {stack : List Nat} {s : Session} {i : Nat}

/-! ### Single changes -/

theorem Balanced.of_objects_eq {after : Session} (balanced : Balanced stack s)
    (same : after.objects = s.objects) : Balanced stack after := by
  have object (j : Nat) : after.object j = s.object j := by simp only [Session.object, same]
  refine ⟨fun i there => ?_, fun j inside => ?_, fun j inside => ?_, fun i there => ?_⟩
  · exact same ▸ balanced.present i there
  · rw [object]
    exact balanced.locked j (same ▸ inside)
  · rw [object]
    exact balanced.fetching j (same ▸ inside)
  · rw [object]
    exact balanced.empty i there

theorem Balanced.record (balanced : Balanced stack s) (e : Event) : Balanced stack (s.record e) :=
  balanced.of_objects_eq rfl

theorem Balanced.note (balanced : Balanced stack s) (notices : List Notice) :
    Balanced stack (s.note notices) :=
  balanced.of_objects_eq rfl

/-- A change of an object's cache changes that cache and no other. -/
theorem Session.cache_updateCache_cases (s : Session) (i j : Nat) (change : ChildCache → ChildCache)
    (present : j < s.objects.length) : ((s.updateCache i change).object j).cache =
      if j = i then change (s.object j).cache else (s.object j).cache := by
  by_cases same : j = i
  · subst same
    rw [if_pos rfl, s.cache_updateCache change present]
  · rw [if_neg same, s.object_updateCache_of_ne change same]

/-- A change that leaves locks alone, and fills no cache of an object on the stack, keeps the balance. -/
theorem Balanced.updateCache (balanced : Balanced stack s) {change : ChildCache → ChildCache}
    (keeps : ChildCache.KeepsLock change)
    (empties : i ∈ stack → ∀ c : ChildCache, c.stored = none → (change c).stored = none) :
    Balanced stack (s.updateCache i change) := by
  have length : (s.updateCache i change).objects.length = s.objects.length := by simp
  refine ⟨fun k there => ?_, fun j inside => ?_, fun j inside => ?_, fun k there => ?_⟩
  · rw [length]
    exact balanced.present k there
  · rw [length] at inside
    rw [s.cache_updateCache_cases i j change inside, ← balanced.locked j inside]
    split
    · exact keeps.locked _
    · rfl
  · rw [length] at inside
    rw [s.cache_updateCache_cases i j change inside, ← balanced.fetching j inside]
    split
    · exact keeps.fetching _
    · rfl
  · rw [s.cache_updateCache_cases i k change (balanced.present k there)]
    split
    · next same =>
        subst same
        exact empties there _ (balanced.empty k there)
    · exact balanced.empty k there

theorem keepsLock_clear : ChildCache.KeepsLock ChildCache.clear :=
  ⟨fun _ => rfl, fun _ => rfl⟩

theorem Balanced.clear (balanced : Balanced stack s) (i : Nat) : Balanced stack (s.clear i).2 := by
  unfold Session.clear
  split
  · exact balanced
  · exact (balanced.updateCache keepsLock_clear fun _ _ _ => rfl).record _

theorem Balanced.copy (balanced : Balanced stack s) (i : Nat) (update : Fields) :
    Balanced stack (s.copy i update).2 := by
  have length : (s.copy i update).2.objects.length = s.objects.length + 1 := by simp [Session.copy]
  -- the copy is free, and too new to be on the stack
  have old {j : Nat} (inside : j < s.objects.length) : (s.copy i update).2.object j = s.object j := by
    simp [Session.copy, Session.object, List.getElem?_append_left, inside]
  have new : ((s.copy i update).2.object s.objects.length).cache = .empty := by
    simp [Session.copy, Session.object]
  have unstacked : decide (s.objects.length ∈ stack) = false :=
    decide_eq_false fun there => Nat.lt_irrefl _ (balanced.present _ there)
  refine ⟨fun k there => ?_, fun j inside => ?_, fun j inside => ?_, fun k there => ?_⟩
  · rw [length]
    exact Nat.lt_succ_of_lt (balanced.present k there)
  · rw [length] at inside
    rcases Nat.lt_succ_iff_lt_or_eq.mp inside with early | rfl
    · rw [old early, balanced.locked j early]
    · rw [new, unstacked]
      rfl
  · rw [length] at inside
    rcases Nat.lt_succ_iff_lt_or_eq.mp inside with early | rfl
    · rw [old early, balanced.fetching j early]
    · rw [new, unstacked]
      rfl
  · rw [old (balanced.present k there)]
    exact balanced.empty k there

/-! ### Direct fetches -/

/-- A direct request that needs a fetch is for an object off the stack, and finds its lock free. -/
theorem Balanced.free_of_unanswered (balanced : Balanced stack s) (inside : i < s.objects.length)
    (unanswered : s.directAnswer? i = none) :
    i ∉ stack ∧ (s.object i).cache.stored = none ∧ (s.object i).cache.locked = false := by
  obtain ⟨stored, unlocked, idle⟩ := Session.directAnswer?_eq_none_iff.mp unanswered
  rw [balanced.fetching i inside] at idle
  exact ⟨of_decide_eq_false idle, stored, unlocked⟩

theorem Balanced.beginFetch (balanced : Balanced stack s) (inside : i < s.objects.length)
    (unanswered : s.directAnswer? i = none) (request : Nat) :
    Balanced (i :: stack) (s.beginFetch i request .direct) := by
  obtain ⟨off, stored, _⟩ := balanced.free_of_unanswered inside unanswered
  have length := s.length_objects_beginFetch i request .direct
  have cache {j : Nat} (present : j < s.objects.length) :
      ((s.beginFetch i request .direct).object j).cache =
        if j = i then (s.object j).cache.occupy .direct else (s.object j).cache :=
    Session.cache_updateCache_cases { s with fetches := s.fetches + 1 } i j (·.occupy .direct) present
  refine ⟨fun k there => ?_, fun j present => ?_, fun j present => ?_, fun k there => ?_⟩
  · rw [length]
    rcases List.mem_cons.mp there with rfl | there
    · exact inside
    · exact balanced.present k there
  · rw [length] at present
    rw [cache present]
    by_cases same : j = i
    · simp [same, ChildCache.occupy]
    · simp [same, balanced.locked j present]
  · rw [length] at present
    rw [cache present]
    by_cases same : j = i
    · simp [same, ChildCache.occupy]
    · simp [same, balanced.fetching j present]
  · rcases List.mem_cons.mp there with rfl | there
    · rw [cache inside, if_pos rfl]
      exact stored
    · have apart : k ≠ i := fun same => off (same ▸ there)
      rw [cache (balanced.present k there), if_neg apart]
      exact balanced.empty k there

/-- The end of a direct fetch gives back the lock and the mark of its object, whatever they were, and
leaves all others alone. -/
theorem balanced_finishFetch (off : i ∉ stack) (ticket : Ticket)
    (outcome : Except Failure (List Child)) (present : ∀ k ∈ stack, k < s.objects.length)
    (locked : ∀ j, j < s.objects.length → j ≠ i → (s.object j).cache.locked = decide (j ∈ stack))
    (fetching : ∀ j, j < s.objects.length → j ≠ i → (s.object j).cache.fetching = decide (j ∈ stack))
    (empty : ∀ k ∈ stack, (s.object k).cache.stored = none) :
    Balanced stack (s.finishFetch i .direct ticket outcome).2 := by
  have length := s.length_objects_finishFetch i .direct ticket outcome
  have other {j : Nat} (apart : j ≠ i) :
      (s.finishFetch i .direct ticket outcome).2.object j = s.object j := by
    simp [Session.finishFetch, Session.object_updateCache_of_ne _ _ apart]
  have own (inside : i < s.objects.length) :
      ((s.finishFetch i .direct ticket outcome).2.object i).cache.locked = false ∧
        ((s.finishFetch i .direct ticket outcome).2.object i).cache.fetching = false := by
    simp [Session.finishFetch, Session.cache_updateCache, Session.note, inside, ChildCache.release]
  refine ⟨fun k there => ?_, fun j inside => ?_, fun j inside => ?_, fun k there => ?_⟩
  · rw [length]
    exact present k there
  · rw [length] at inside
    by_cases same : j = i
    · rw [same, (own (same ▸ inside)).1, decide_eq_false off]
    · rw [other same, locked j inside same]
  · rw [length] at inside
    by_cases same : j = i
    · rw [same, (own (same ▸ inside)).2, decide_eq_false off]
    · rw [other same, fetching j inside same]
  · rw [other fun same => off (same ▸ there)]
    exact empty k there

/-- A direct fetch that ends takes its object off the stack. -/
theorem Balanced.finishFetch (balanced : Balanced (i :: stack) s) (off : i ∉ stack) (ticket : Ticket)
    (outcome : Except Failure (List Child)) :
    Balanced stack (s.finishFetch i .direct ticket outcome).2 := by
  apply balanced_finishFetch off
  · exact fun k there => balanced.present k (List.mem_cons_of_mem i there)
  · intro j inside apart
    rw [balanced.locked j inside]
    simp [apart]
  · intro j inside apart
    rw [balanced.fetching j inside]
    simp [apart]
  · exact fun k there => balanced.empty k (List.mem_cons_of_mem i there)

/-- A direct request leaves locks and marks as they were if its fetch does. -/
theorem Balanced.request (balanced : Balanced stack s) (i : Nat)
    {carryOut : Session → Except Failure (List Child) × Session}
    (keeps : ∀ stack s, Balanced stack s → Balanced stack (carryOut s).2) :
    Balanced stack (s.request i carryOut).2 := by
  unfold Session.request
  split
  · exact balanced.record _
  · next unanswered =>
      by_cases inside : i < s.objects.length
      · have off := (balanced.free_of_unanswered inside unanswered).1
        exact (keeps _ _ (balanced.beginFetch inside unanswered s.now)).finishFetch off _ _
      · -- an object that is not there has no cache, and nothing to lock
        have off : i ∉ stack := fun there => inside (balanced.present i there)
        have begun : Balanced stack (s.beginFetch i s.now .direct) := by
          apply balanced.of_objects_eq
          simp [Session.beginFetch, Session.updateCache, List.modify_eq_self (Nat.le_of_not_lt inside)]
        have done := keeps stack _ begun
        exact balanced_finishFetch off _ _ done.present (fun j present _ => done.locked j present)
          (fun j present _ => done.fetching j present) done.empty

/-- A direct fetch leaves locks and marks as they were, whatever it does on the way, and however it
ends. -/
theorem Balanced.run (fetch : Fetch) : ∀ (stack : List Nat) (s : Session), Balanced stack s →
    Balanced stack (fetch.run s).2 := by
  induction fetch with
  | finish outcome => exact fun stack s balanced => balanced.note outcome.notices
  | clear i next hypothesis => exact fun stack s balanced => hypothesis _ stack _ (balanced.clear i)
  | peek i next hypothesis =>
      exact fun stack s balanced => hypothesis _ stack _ (balanced.record _)
  | copy i update next hypothesis =>
      exact fun stack s balanced => hypothesis _ stack _ (balanced.copy i update)
  | get i inner next innerHypothesis hypothesis =>
      exact fun stack s balanced => hypothesis _ stack _ (balanced.request i innerHypothesis)

theorem Balanced.get (balanced : Balanced stack s) (i : Nat) (fetch : Fetch) :
    Balanced stack (s.get i fetch).2 :=
  balanced.request i (Balanced.run fetch)

end

/-! ### Tasks

Between the actions of tasks the call stack is empty. -/

section
variable {s : Session} {i me : Nat}

/-- With an empty call stack all locks and marks are free. -/
theorem balanced_nil (free : ∀ j, j < s.objects.length →
    (s.object j).cache.locked = false ∧ (s.object j).cache.fetching = false) : Balanced [] s := by
  constructor
  case present => exact fun _ there => absurd there List.not_mem_nil
  case locked => exact fun j inside => (free j inside).1
  case fetching => exact fun j inside => (free j inside).2
  case empty => exact fun _ there => absurd there List.not_mem_nil

theorem Balanced.updateCache_nil (balanced : Balanced [] s) {change : ChildCache → ChildCache}
    (keeps : ChildCache.KeepsLock change) : Balanced [] (s.updateCache i change) :=
  balanced.updateCache keeps fun there => absurd there List.not_mem_nil

theorem Balanced.changeQueue (balanced : Balanced [] s) (change : Turnstile → Turnstile) :
    Balanced [] (s.updateCache i fun c => { c with turnstile := change c.turnstile }) :=
  balanced.updateCache_nil ⟨fun _ => rfl, fun _ => rfl⟩

theorem Balanced.beginFetch_task (balanced : Balanced [] s) (request : Nat) :
    Balanced [] (s.beginFetch i request (.task me)) := by
  have counted : Balanced [] { s with fetches := s.fetches + 1 } := balanced.of_objects_eq rfl
  have keeps : ChildCache.KeepsLock (·.occupy (.task me)) := ⟨fun _ => rfl, fun _ => rfl⟩
  exact (counted.updateCache_nil keeps).record _

theorem keepsLock_settle_task (ticket : Ticket) (outcome : Except Failure (List Child)) :
    ChildCache.KeepsLock fun c => (c.store ticket outcome).release (.task me) := by
  constructor
  · intro c
    rw [c.store_eq]
    rfl
  · intro c
    rw [c.store_eq]
    rfl

theorem Balanced.finishFetch_task (balanced : Balanced [] s) (ticket : Ticket)
    (outcome : Except Failure (List Child)) :
    Balanced [] (s.finishFetch i (.task me) ticket outcome).2 := by
  have noted := balanced.note (Session.fetchAnswer (s.object i).holder ticket.fetch outcome).2
  exact (noted.updateCache_nil (keepsLock_settle_task _ _)).record _

theorem Balanced.report (balanced : Balanced [] s) (result : Stored) :
    Balanced [] (s.report result).2 :=
  balanced.of_objects_eq (s.objects_report result)

theorem Balanced.resume (balanced : Balanced [] s) (answer : Except Failure Stored)
    (stack : List Pending) (next : Continuation) : Balanced [] (Task.resume answer stack s next).2 := by
  cases next with
  | some next => exact balanced
  | none =>
      cases answer with
      | ok result => exact balanced.report result
      | error failure => exact balanced

theorem Balanced.enter (balanced : Balanced [] s) (request : Nat) (fetch : AsyncFetch)
    (next : Continuation) (stack : List Pending) :
    Balanced [] (Task.enter me i request fetch next stack s).2 := by
  unfold Task.enter
  split
  · exact ((balanced.changeQueue fun queue => queue.quit me).record _).resume _ _ _
  · exact balanced.beginFetch_task request

theorem Balanced.ask (balanced : Balanced [] s) (fetch : AsyncFetch) (next : Continuation)
    (stack : List Pending) : Balanced [] (Task.ask me i fetch next stack s).2 := by
  unfold Task.ask
  split
  · exact (balanced.record _).resume _ _ _
  · split
    · exact balanced.enter s.now fetch next stack
    · exact (balanced.changeQueue fun queue => queue.join me).record _

theorem Balanced.carryOut (balanced : Balanced [] s) (stack : List Pending) (fetch : AsyncFetch) :
    Balanced [] (Task.carryOut me stack s fetch).2 := by
  cases fetch with
  | finish outcome =>
      have noted := balanced.note outcome.notices
      cases stack with
      | nil => exact noted
      | cons p stack => exact (noted.finishFetch_task p.ticket outcome.result).resume _ _ _
  | clear i next => exact balanced.clear i
  | peek i next => exact balanced.record _
  | copy i update next => exact balanced.copy i update
  | get i inner next => exact balanced.get i inner
  | aget i inner next => exact balanced.ask inner (some next) stack
  | await next => exact balanced

theorem Balanced.taskStep (balanced : Balanced [] s) (task : Task) :
    Balanced [] (Task.step me s task).2 := by
  cases task with
  | done result => exact balanced
  | clearing i => exact balanced.clear i
  | requesting i fetch => exact balanced.ask fetch none []
  | going fetch stack => exact balanced.carryOut stack fetch
  | paused next stack => exact balanced
  | waiting i request fetch next stack =>
      rw [Task.step]
      split
      · exact balanced.enter request fetch next stack
      · exact balanced

theorem Balanced.taskCancel (balanced : Balanced [] s) (task : Task) :
    Balanced [] (Task.cancel me s task).2 := by
  cases task with
  | waiting i request fetch next stack =>
      exact ((balanced.changeQueue fun queue => queue.quit me).record _).resume _ _ _
  | done result => exact balanced
  | clearing i => exact balanced
  | requesting i fetch => exact balanced
  | going fetch stack => exact balanced
  | paused next stack => exact balanced

theorem Balanced.move {loop : TaskLoop} (balanced : Balanced [] loop.session) (move : Move) :
    Balanced [] (loop.move move).session := by
  have update {me : Nat} {change : Session → Task → Task × Session}
      (keeps : ∀ task, Balanced [] (change loop.session task).2) :
      Balanced [] (loop.update me change).session := by
    unfold TaskLoop.update
    cases loop.tasks[me]? with
    | none => exact balanced
    | some task => exact keeps task
  cases move with
  | go me => exact update fun task => balanced.taskStep task
  | cancel me => exact update fun task => balanced.taskCancel task

theorem Balanced.follow (moves : List Move) : ∀ {loop : TaskLoop}, Balanced [] loop.session →
    Balanced [] (loop.follow moves).session := by
  induction moves with
  | nil => exact id
  | cons move moves hypothesis => exact fun balanced => hypothesis (balanced.move move)

/-! ### Runs -/

theorem balanced_start (holders : List CacheHolder) : Balanced [] (Session.start holders) := by
  apply balanced_nil
  intro j inside
  have known : j < holders.length := by simpa [Session.start] using inside
  have fresh : ((Session.start holders).object j).cache = .empty := by
    simp [Session.start, Session.object, known]
  rw [fresh]
  exact ⟨rfl, rfl⟩

theorem Balanced.beginRound (balanced : Balanced [] s) : Balanced [] s.beginRound := by
  apply balanced_nil
  intro j inside
  have known : j < s.objects.length := by simpa [Session.beginRound] using inside
  have renewed : (s.beginRound.object j).cache = (s.object j).cache.renew := by
    simp [Session.beginRound, Session.object, known]
  rw [renewed]
  exact ⟨balanced.locked j known, balanced.fetching j known⟩

theorem Balanced.step (balanced : Balanced [] s) (step : Step) : Balanced [] (s.step step) := by
  cases step with
  | get i fetch => exact balanced.get i fetch
  | clear i => exact balanced.clear i
  | peek i => exact balanced.record _
  | copy i update => exact balanced.copy i update

theorem Balanced.phase (balanced : Balanced [] s) (phase : Phase) : Balanced [] (s.phase phase) := by
  cases phase with
  | steps steps =>
      induction steps generalizing s with
      | nil => exact balanced
      | cons step steps hypothesis => exact hypothesis (balanced.step step)
  | round jobs moves => exact Balanced.follow moves balanced.beginRound

/-- After every run, and wherever a round of tasks is cut off, all locks of direct fetches are free. -/
theorem Balanced.play (phases : List Phase) : ∀ {s : Session}, Balanced [] s →
    Balanced [] (s.play phases) := by
  induction phases with
  | nil => exact id
  | cons phase phases hypothesis => exact fun balanced => hypothesis (balanced.phase phase)

end

end Syscat
