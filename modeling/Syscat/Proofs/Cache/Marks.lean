/-
Module: Syscat.Proofs.Cache.Marks
Purpose: The marks of the two ways of fetching, each on its own. A direct request leaves the marks of
  tasks alone, and the actions of tasks those of direct fetches. In a round of tasks a cache is marked
  for a task exactly while the task is in a fetch for its object.
Main exports: Session.marks, directMarks_get, taskMarks_get, Task.Shifts, Task.acts_step,
  TaskLoop.Reaches, TaskLoop.Marked, TaskLoop.Reaches.marked
-/
import Mathlib.Logic.Function.Basic
import Syscat.Proofs.Cache.Locks

namespace Syscat

/-! ### Marks -/

namespace ChildCache

/-- The mark and the lock of direct fetches. -/
def directMark (c : ChildCache) : Bool × Bool := (c.fetching, c.locked)

/-- The mark of the fetches of tasks, and whether their lock is taken. -/
def taskMark (c : ChildCache) : Option Nat × Bool := (c.fetchingTask, c.turnstile.taken)

theorem directMark_store (c : ChildCache) (t : Ticket) (outcome : Except Failure (List Child)) :
    (c.store t outcome).directMark = c.directMark := by
  rw [c.store_eq]
  rfl

theorem taskMark_store (c : ChildCache) (t : Ticket) (outcome : Except Failure (List Child)) :
    (c.store t outcome).taskMark = c.taskMark := by
  rw [c.store_eq]
  rfl

end ChildCache

/-- The mark of each object's cache. An object that is not there has the marks of a new one. -/
def Session.marks {α : Type} (mark : ChildCache → α) (s : Session) (i : Nat) : α :=
  mark (s.object i).cache

section
variable {α : Type} {mark : ChildCache → α} {s : Session} {i : Nat}

theorem object_of_absent (absent : s.objects.length ≤ i) : s.object i = default := by
  simp [Session.object, absent]

theorem marks_of_objects_eq {after : Session} (same : after.objects = s.objects) :
    after.marks mark = s.marks mark := by
  funext j
  simp only [Session.marks, Session.object, same]

/-- A change that keeps the mark of a cache keeps all marks. -/
theorem marks_updateCache {change : ChildCache → ChildCache} (keeps : ∀ c, mark (change c) = mark c) :
    (s.updateCache i change).marks mark = s.marks mark := by
  funext j
  by_cases same : j = i
  · subst same
    by_cases inside : j < s.objects.length
    · simp only [Session.marks, s.cache_updateCache change inside, keeps]
    · simp [Session.marks, Session.object, Session.updateCache, inside]
  · simp only [Session.marks, s.object_updateCache_of_ne change same]

/-- A change that gives the cache of an object a mark changes the marks there. -/
theorem marks_updateCache_of_eq {change : ChildCache → ChildCache} {a : α}
    (gives : mark (change (s.object i).cache) = a) (inside : i < s.objects.length) :
    (s.updateCache i change).marks mark = Function.update (s.marks mark) i a := by
  funext j
  by_cases same : j = i
  · subst same
    rw [Function.update_self, Session.marks, s.cache_updateCache change inside, gives]
  · rw [Function.update_of_ne same, Session.marks, s.object_updateCache_of_ne change same]
    rfl

theorem marks_changeQueue (change : Turnstile → Turnstile)
    (keeps : ∀ c : ChildCache, mark { c with turnstile := change c.turnstile } = mark c) :
    (s.updateCache i fun c => { c with turnstile := change c.turnstile }).marks mark = s.marks mark :=
  marks_updateCache keeps

theorem marks_clear (keeps : ∀ c : ChildCache, mark c.clear = mark c) :
    (s.clear i).2.marks mark = s.marks mark := by
  unfold Session.clear
  split
  · rfl
  · exact marks_updateCache keeps

/-- The cache of a copy has the marks of a new one, which stood there before. -/
theorem marks_copy (update : Fields) : (s.copy i update).2.marks mark = s.marks mark := by
  funext j
  rcases Nat.lt_trichotomy j s.objects.length with old | rfl | beyond
  · simp [Session.marks, Session.copy, Session.object, List.getElem?_append_left, old]
  · have new : ((s.copy i update).2.object s.objects.length).cache = .empty := by
      simp [Session.copy, Session.object]
    rw [Session.marks, Session.marks, new, object_of_absent (Nat.le_refl _)]
    rfl
  · have absent : (s.copy i update).2.objects.length ≤ j := by
      rw [Session.copy, List.length_append, List.length_singleton]
      exact beyond
    rw [Session.marks, Session.marks, object_of_absent absent, object_of_absent (Nat.le_of_lt beyond)]

theorem marks_beginFetch {way : Way} (keeps : ∀ c : ChildCache, mark (c.occupy way) = mark c)
    (request : Nat) : (s.beginFetch i request way).marks mark = s.marks mark := by
  have counted : { s with fetches := s.fetches + 1 }.marks mark = s.marks mark := marks_of_objects_eq rfl
  exact (marks_updateCache keeps).trans counted

theorem marks_beginFetch_of_ne {way : Way} (request : Nat) {j : Nat} (other : j ≠ i) :
    (s.beginFetch i request way).marks mark j = s.marks mark j := by
  have same := Session.object_updateCache_of_ne { s with fetches := s.fetches + 1 } (·.occupy way) other
  exact congrArg (fun o : CacheObject => mark o.cache) same

/-- A fetch that is entered gives a cache a mark. -/
theorem marks_beginFetch_of_eq {way : Way} {a : α} (gives : mark ((s.object i).cache.occupy way) = a)
    (inside : i < s.objects.length) (request : Nat) :
    (s.beginFetch i request way).marks mark = Function.update (s.marks mark) i a := by
  have counted : { s with fetches := s.fetches + 1 }.marks mark = s.marks mark := marks_of_objects_eq rfl
  have changed : ({ s with fetches := s.fetches + 1 }.updateCache i (·.occupy way)).marks mark =
      Function.update ({ s with fetches := s.fetches + 1 }.marks mark) i a :=
    marks_updateCache_of_eq gives inside
  rw [counted] at changed
  exact changed

section
variable {way : Way} {ticket : Ticket} {outcome : Except Failure (List Child)}

theorem marks_finishFetch (keeps : ∀ c : ChildCache,
      mark ((c.store ticket outcome).release way) = mark c) :
    (s.finishFetch i way ticket outcome).2.marks mark = s.marks mark := by
  have noted : (s.note (Session.fetchAnswer (s.object i).holder ticket.fetch outcome).2).marks mark =
      s.marks mark := rfl
  exact (marks_updateCache keeps).trans noted

/-- The end of a fetch gives a cache the mark of a new one, whether or not it is there. -/
theorem marks_finishFetch_of_eq (gives : ∀ c : ChildCache,
      mark ((c.store ticket outcome).release way) = mark .empty) :
    (s.finishFetch i way ticket outcome).2.marks mark =
      Function.update (s.marks mark) i (mark .empty) := by
  by_cases inside : i < s.objects.length
  · let settle := fun c : ChildCache => (c.store ticket outcome).release way
    have changed : ((s.note (Session.fetchAnswer (s.object i).holder ticket.fetch outcome).2).updateCache
        i settle).marks mark = Function.update (s.marks mark) i (mark .empty) :=
      marks_updateCache_of_eq (gives _) inside
    exact changed
  · have absent : s.objects.length ≤ i := Nat.le_of_not_lt inside
    have unmarked : s.marks mark i = mark .empty := by
      rw [Session.marks, object_of_absent absent]
      rfl
    rw [← unmarked, Function.update_eq_self]
    apply marks_of_objects_eq
    simp [Session.finishFetch, Session.updateCache, Session.note, List.modify_eq_self absent]

end

/-! ### Direct fetches -/

theorem taskMarks_beginFetch_direct (request : Nat) :
    (s.beginFetch i request .direct).marks (·.taskMark) = s.marks (·.taskMark) :=
  marks_beginFetch (fun _ => rfl) request

theorem taskMarks_finishFetch_direct (ticket : Ticket) (outcome : Except Failure (List Child)) :
    (s.finishFetch i .direct ticket outcome).2.marks (·.taskMark) = s.marks (·.taskMark) :=
  marks_finishFetch fun c => c.taskMark_store ticket outcome

theorem directMarks_beginFetch_direct (inside : i < s.objects.length) (request : Nat) :
    (s.beginFetch i request .direct).marks (·.directMark) =
      Function.update (s.marks (·.directMark)) i (true, true) :=
  marks_beginFetch_of_eq rfl inside request

theorem directMarks_finishFetch_direct (ticket : Ticket) (outcome : Except Failure (List Child)) :
    (s.finishFetch i .direct ticket outcome).2.marks (·.directMark) =
      Function.update (s.marks (·.directMark)) i (false, false) :=
  marks_finishFetch_of_eq fun _ => rfl

/-- A direct request leaves the marks of tasks alone if its fetch does. -/
theorem taskMarks_request {carryOut : Session → Except Failure (List Child) × Session}
    (keeps : ∀ s, (carryOut s).2.marks (·.taskMark) = s.marks (·.taskMark)) :
    (s.request i carryOut).2.marks (·.taskMark) = s.marks (·.taskMark) := by
  unfold Session.request
  split
  · rfl
  · exact (taskMarks_finishFetch_direct _ _).trans ((keeps _).trans (taskMarks_beginFetch_direct s.now))

/-- What finds no answer at once finds no mark of a direct fetch. -/
theorem directMark_of_unanswered (unanswered : s.directAnswer? i = none) :
    s.marks (·.directMark) i = (false, false) := by
  obtain ⟨_, unlocked, idle⟩ := Session.directAnswer?_eq_none_iff.mp unanswered
  exact Prod.ext idle unlocked

/-- A direct request takes back the marks that it sets if its fetch leaves them alone. -/
theorem directMarks_request {carryOut : Session → Except Failure (List Child) × Session}
    (keeps : ∀ s, (carryOut s).2.marks (·.directMark) = s.marks (·.directMark)) :
    (s.request i carryOut).2.marks (·.directMark) = s.marks (·.directMark) := by
  unfold Session.request
  split
  · rfl
  · next unanswered =>
      have unmarked := directMark_of_unanswered unanswered
      change (Session.finishFetch _ i .direct _ _).2.marks _ = _
      rw [directMarks_finishFetch_direct, keeps, ← unmarked]
      funext j
      by_cases same : j = i
      · rw [same, Function.update_self]
      · rw [Function.update_of_ne same, marks_beginFetch_of_ne _ same]

/-- A direct fetch leaves the marks of both ways as they were. -/
theorem marks_run (fetch : Fetch) : ∀ s : Session,
    (fetch.run s).2.marks (·.taskMark) = s.marks (·.taskMark) ∧
      (fetch.run s).2.marks (·.directMark) = s.marks (·.directMark) := by
  induction fetch with
  | finish outcome => exact fun s => ⟨rfl, rfl⟩
  | clear i next ih =>
      intro s
      obtain ⟨tasks, direct⟩ := ih (s.clear i).1 (s.clear i).2
      exact ⟨tasks.trans (marks_clear fun _ => rfl), direct.trans (marks_clear fun _ => rfl)⟩
  | peek i next ih => exact fun s => ih (s.peek i).1 (s.peek i).2
  | copy i update next ih =>
      intro s
      obtain ⟨tasks, direct⟩ := ih (s.copy i update).1 (s.copy i update).2
      exact ⟨tasks.trans (marks_copy update), direct.trans (marks_copy update)⟩
  | get i inner next innerIh ih =>
      intro s
      obtain ⟨tasks, direct⟩ := ih (s.request i inner.run).1 (s.request i inner.run).2
      exact ⟨tasks.trans (taskMarks_request fun s => (innerIh s).1),
        direct.trans (directMarks_request fun s => (innerIh s).2)⟩

theorem taskMarks_get (fetch : Fetch) :
    (s.get i fetch).2.marks (·.taskMark) = s.marks (·.taskMark) :=
  taskMarks_request fun s => (marks_run fetch s).1

theorem directMarks_get (fetch : Fetch) :
    (s.get i fetch).2.marks (·.directMark) = s.marks (·.directMark) :=
  directMarks_request fun s => (marks_run fetch s).2

end

/-! ### The marks of direct fetches among tasks -/

section
variable {s : Session} {i me : Nat}

theorem directMarks_resume (answer : Except Failure Stored) (stack : List Pending) (next : Continuation) :
    (Task.resume answer stack s next).2.marks (·.directMark) = s.marks (·.directMark) := by
  cases next with
  | some next => rfl
  | none =>
      cases answer with
      | error failure => rfl
      | ok result => exact marks_of_objects_eq (s.objects_report result)

theorem directMarks_enter (request : Nat) (fetch : AsyncFetch) (next : Continuation)
    (stack : List Pending) :
    (Task.enter me i request fetch next stack s).2.marks (·.directMark) = s.marks (·.directMark) := by
  unfold Task.enter
  split
  · exact (directMarks_resume _ _ _).trans (marks_changeQueue (·.quit me) fun _ => rfl)
  · exact marks_beginFetch (fun _ => rfl) request

theorem directMarks_ask (fetch : AsyncFetch) (next : Continuation) (stack : List Pending) :
    (Task.ask me i fetch next stack s).2.marks (·.directMark) = s.marks (·.directMark) := by
  unfold Task.ask
  split
  · exact directMarks_resume _ _ _
  · split
    · exact directMarks_enter s.now fetch next stack
    · exact marks_changeQueue (·.join me) fun _ => rfl

theorem directMarks_carryOut (stack : List Pending) (fetch : AsyncFetch) :
    (Task.carryOut me stack s fetch).2.marks (·.directMark) = s.marks (·.directMark) := by
  cases fetch with
  | finish outcome =>
      cases stack with
      | nil => rfl
      | cons p stack =>
          refine (directMarks_resume _ _ _).trans ?_
          exact marks_finishFetch fun c => c.directMark_store p.ticket _
  | clear i next => exact marks_clear fun _ => rfl
  | peek i next => rfl
  | copy i update next => exact marks_copy update
  | get i inner next => exact directMarks_get inner
  | aget i inner next => exact directMarks_ask inner (some next) stack
  | await next => rfl

theorem directMarks_step (task : Task) :
    (Task.step me s task).2.marks (·.directMark) = s.marks (·.directMark) := by
  cases task with
  | done result => rfl
  | clearing i => exact marks_clear fun _ => rfl
  | requesting i fetch => exact directMarks_ask fetch none []
  | going fetch stack => exact directMarks_carryOut stack fetch
  | paused next stack => rfl
  | waiting i request fetch next stack =>
      rw [Task.step]
      split
      · exact directMarks_enter request fetch next stack
      · rfl

theorem directMarks_cancel (task : Task) :
    (Task.cancel me s task).2.marks (·.directMark) = s.marks (·.directMark) := by
  cases task with
  | waiting i request fetch next stack =>
      exact (directMarks_resume _ _ _).trans (marks_changeQueue (·.quit me) fun _ => rfl)
  | done result => rfl
  | clearing i => rfl
  | requesting i fetch => rfl
  | going fetch stack => rfl
  | paused next stack => rfl

theorem directMarks_move (loop : TaskLoop) (move : Move) :
    (loop.move move).session.marks (·.directMark) = loop.session.marks (·.directMark) := by
  cases move with
  | go me =>
      simp only [TaskLoop.move, TaskLoop.update]
      split
      · rfl
      · exact directMarks_step _
  | cancel me =>
      simp only [TaskLoop.move, TaskLoop.update]
      split
      · rfl
      · exact directMarks_cancel _

end

/-! ### The marks of tasks -/

namespace Task

/-- The fetches that a task is in, the innermost one first. -/
def stack : Task → List Pending
  | going _ stack | paused _ stack | waiting _ _ _ _ stack => stack
  | done _ | clearing _ | requesting _ _ => []

/-- The objects of the fetches that a task is in. -/
def objects (task : Task) : List Nat :=
  task.stack.map Pending.object

end Task

/-- Only the outermost fetch of a task answers the task's own request. -/
def Pending.Grounded : List Pending → Prop
  | [] => True
  | p :: stack => (p.next = none → stack = []) ∧ Grounded stack

/-- A task waits for itself only if it is in no fetch. -/
def Task.Grounded : Task → Prop
  | .going _ stack | .paused _ stack => Pending.Grounded stack
  | .waiting _ _ _ next stack => (next = none → stack = []) ∧ Pending.Grounded stack
  | .done _ | .clearing _ | .requesting _ _ => True

/-- What an action of a task does to the marks of tasks: nothing, or it enters a fetch whose lock is free,
or it ends the innermost fetch. -/
inductive Task.Shifts (me : Nat) (s : Session) (before : List Nat) : List Nat → Session → Prop where
  | stays {after : Session} (same : after.marks (·.taskMark) = s.marks (·.taskMark)) :
      Shifts me s before before after
  | enters {i : Nat} {after : Session} (free : (s.marks (·.taskMark) i).2 = false)
      (marked : after.marks (·.taskMark) =
        Function.update (s.marks (·.taskMark)) i (some me, true)) :
      Shifts me s before (i :: before) after
  | ends {i : Nat} {rest : List Nat} {after : Session} (innermost : before = i :: rest)
      (unmarked : after.marks (·.taskMark) =
        Function.update (s.marks (·.taskMark)) i (none, false)) :
      Shifts me s before rest after

/-- What an action makes of a task that is in fetches for some objects. -/
structure Task.Acts (me : Nat) (s : Session) (before : List Nat) (went : Task × Session) : Prop where
  grounded : went.1.Grounded
  shifts : Shifts me s before went.1.objects went.2

/-- The object that a task requests next is there. -/
def Task.Addressed (s : Session) : Task → Prop
  | .requesting i _ | .waiting i _ _ _ _ | .going (.aget i _ _) _ => i < s.objects.length
  | _ => True

section
variable {s : Session} {i me : Nat} {stack : List Pending} {next : Continuation}

theorem acts_of_same (task : Task) {after : Session} (grounded : task.Grounded)
    (same : after.marks (·.taskMark) = s.marks (·.taskMark)) :
    Task.Acts me s task.objects (task, after) :=
  ⟨grounded, .stays same⟩

/-- A task that goes on with an answer stays in its fetches. -/
theorem resume_stack (answer : Except Failure Stored) (bottom : next = none → stack = [])
    (grounded : Pending.Grounded stack) :
    (Task.resume answer stack s next).1.Grounded ∧
      (Task.resume answer stack s next).1.objects = stack.map Pending.object ∧
      (Task.resume answer stack s next).2.marks (·.taskMark) = s.marks (·.taskMark) := by
  cases next with
  | some next => exact ⟨grounded, rfl, rfl⟩
  | none =>
      rw [bottom rfl]
      cases answer with
      | error failure => exact ⟨trivial, rfl, rfl⟩
      | ok result =>
          exact ⟨trivial, rfl, marks_of_objects_eq (s.objects_report result)⟩

section
variable {middle : Session} (answer : Except Failure Stored) (bottom : next = none → stack = [])
  (grounded : Pending.Grounded stack)
include bottom grounded

theorem acts_resume (same : middle.marks (·.taskMark) = s.marks (·.taskMark)) :
    Task.Acts me s (stack.map Pending.object) (Task.resume answer stack middle next) := by
  obtain ⟨ground, objects, marks⟩ := resume_stack (s := middle) answer bottom grounded
  refine ⟨ground, ?_⟩
  rw [objects]
  exact .stays (marks.trans same)

theorem acts_resume_of_ended (unmarked : middle.marks (·.taskMark) =
      Function.update (s.marks (·.taskMark)) i (none, false)) :
    Task.Acts me s (i :: stack.map Pending.object) (Task.resume answer stack middle next) := by
  obtain ⟨ground, objects, marks⟩ := resume_stack (s := middle) answer bottom grounded
  refine ⟨ground, ?_⟩
  rw [objects]
  exact .ends rfl (marks.trans unmarked)

end

theorem acts_enter (request : Nat) (fetch : AsyncFetch) (bottom : next = none → stack = [])
    (grounded : Pending.Grounded stack) (inside : i < s.objects.length)
    (free : (s.marks (·.taskMark) i).2 = false) :
    Task.Acts me s (stack.map Pending.object) (Task.enter me i request fetch next stack s) := by
  unfold Task.enter
  split
  · exact acts_resume _ bottom grounded (marks_changeQueue (·.quit me) fun _ => rfl)
  · exact ⟨⟨bottom, grounded⟩, .enters free (marks_beginFetch_of_eq rfl inside request)⟩

theorem acts_ask (fetch : AsyncFetch) (bottom : next = none → stack = [])
    (grounded : Pending.Grounded stack) (inside : i < s.objects.length) :
    Task.Acts me s (stack.map Pending.object) (Task.ask me i fetch next stack s) := by
  unfold Task.ask
  split
  · exact acts_resume _ bottom grounded rfl
  · split
    · next isFree =>
        have free : (s.marks (·.taskMark) i).2 = false :=
          (Bool.not_eq_true' _).mp (Bool.and_eq_true_iff.mp isFree).1
        exact acts_enter s.now fetch bottom grounded inside free
    · exact ⟨⟨bottom, grounded⟩, .stays (marks_changeQueue (·.join me) fun _ => rfl)⟩

theorem acts_carryOut (fetch : AsyncFetch) (grounded : Pending.Grounded stack)
    (addressed : (Task.going fetch stack).Addressed s) :
    Task.Acts me s (stack.map Pending.object) (Task.carryOut me stack s fetch) := by
  cases fetch with
  | finish outcome =>
      cases stack with
      | nil => exact acts_of_same (.done _) trivial rfl
      | cons p stack =>
          obtain ⟨bottom, grounded⟩ := grounded
          have unmarked : ((s.note outcome.notices).finishFetch p.object (.task me) p.ticket
              outcome.result).2.marks (·.taskMark) =
                Function.update (s.marks (·.taskMark)) p.object (none, false) :=
            marks_finishFetch_of_eq (s := s.note outcome.notices) fun _ => rfl
          exact acts_resume_of_ended _ bottom grounded unmarked
  | clear i next =>
      exact acts_of_same (.going (next (s.clear i).1) stack) grounded (marks_clear fun _ => rfl)
  | peek i next => exact acts_of_same (.going (next (s.peek i).1) stack) grounded rfl
  | copy i update next =>
      exact acts_of_same (.going (next (s.copy i update).1) stack) grounded (marks_copy update)
  | get i inner next =>
      exact acts_of_same (.going (next (s.get i inner).1) stack) grounded (taskMarks_get inner)
  | aget i inner next => exact acts_ask inner nofun grounded addressed
  | await next => exact acts_of_same (.paused next stack) grounded rfl

/-- What one action of a task does to the marks of tasks. -/
theorem acts_step {task : Task} (grounded : task.Grounded) (addressed : task.Addressed s) :
    Task.Acts me s task.objects (Task.step me s task) := by
  cases task with
  | done result => exact acts_of_same _ grounded rfl
  | clearing i => exact acts_of_same (.done _) trivial (marks_clear fun _ => rfl)
  | requesting i fetch => exact acts_ask fetch (fun _ => rfl) trivial addressed
  | going fetch stack => exact acts_carryOut fetch grounded addressed
  | paused next stack => exact acts_of_same (.going (next .resumed) stack) grounded rfl
  | waiting i request fetch next stack =>
      rw [Task.step]
      split
      · next letIn =>
          have free : (s.marks (·.taskMark) i).2 = false :=
            (Bool.not_eq_true' _).mp (Bool.and_eq_true_iff.mp letIn).1
          exact acts_enter request fetch grounded.1 grounded.2 addressed free
      · exact acts_of_same _ grounded rfl

/-- A task that is cancelled stays in its fetches for now. -/
theorem acts_cancel {task : Task} (grounded : task.Grounded) :
    Task.Acts me s task.objects (Task.cancel me s task) := by
  cases task with
  | done result => exact acts_of_same _ grounded rfl
  | clearing i => exact acts_of_same (.done _) trivial rfl
  | requesting i fetch => exact acts_of_same (.done _) trivial rfl
  | going fetch stack => exact acts_of_same _ grounded rfl
  | paused next stack => exact acts_of_same (.going (next .cancelled) stack) grounded rfl
  | waiting i request fetch next stack =>
      exact acts_resume _ grounded.1 grounded.2 (marks_changeQueue (·.quit me) fun _ => rfl)

end

/-! ### Rounds -/

/-- In a round a cache is marked for a task exactly while the task is in a fetch for its object, and its
lock is taken exactly while it is marked. -/
structure TaskLoop.Marked (loop : TaskLoop) : Prop where
  held : ∀ j me, (loop.session.marks (·.taskMark) j).1 = some me ↔
    ∃ task : Task, loop.tasks[me]? = some task ∧ j ∈ task.objects
  taken : ∀ j, (loop.session.marks (·.taskMark) j).2 =
    (loop.session.marks (·.taskMark) j).1.isSome
  once : ∀ (me : Nat) (task : Task), loop.tasks[me]? = some task → task.objects.Nodup
  grounded : ∀ (me : Nat) (task : Task), loop.tasks[me]? = some task → task.Grounded

/-- What a round can come to if each request is for an object that is there. -/
inductive TaskLoop.Reaches (jobs : List Job) (s : Session) : TaskLoop → Prop where
  | start : Reaches jobs s (TaskLoop.start jobs s)
  | go {loop : TaskLoop} (me : Nat) (reaches : Reaches jobs s loop)
      (addressed : ∀ task, loop.tasks[me]? = some task → task.Addressed loop.session) :
      Reaches jobs s (loop.move (.go me))
  | cancel {loop : TaskLoop} (me : Nat) (reaches : Reaches jobs s loop) :
      Reaches jobs s (loop.move (.cancel me))

section
variable {loop : TaskLoop} {me : Nat} {task : Task} {went : Task × Session}

/-- The tasks after one of them acted. -/
theorem getElem?_set_task (found : loop.tasks[me]? = some task) (after : Task) (other : Nat) :
    (loop.tasks.set me after)[other]? = if other = me then some after else loop.tasks[other]? := by
  have inside : me < loop.tasks.length := (List.getElem?_eq_some_iff.mp found).1
  by_cases same : other = me
  · subst same
    simp [inside]
  · simp [same, Ne.symm same]

/-- The mark of a task is where the task is in a fetch. -/
theorem TaskLoop.Marked.mine (marked : loop.Marked) (found : loop.tasks[me]? = some task) (j : Nat) :
    (loop.session.marks (·.taskMark) j).1 = some me ↔ j ∈ task.objects := by
  rw [marked.held, found]
  simp

/-- The marks stay in step if those of the task that acted do, and the others stay as they are. -/
theorem TaskLoop.Marked.acted (marked : loop.Marked) (found : loop.tasks[me]? = some task) {after : Task}
    {session : Session} (grounded : after.Grounded) (once : after.objects.Nodup)
    (held : ∀ j k, (session.marks (·.taskMark) j).1 = some k ↔
      if k = me then j ∈ after.objects else (loop.session.marks (·.taskMark) j).1 = some k)
    (taken : ∀ j, (session.marks (·.taskMark) j).2 = (session.marks (·.taskMark) j).1.isSome) :
    TaskLoop.Marked ⟨loop.tasks.set me after, session⟩ := by
  have tasks := getElem?_set_task found after
  refine ⟨fun j k => ?_, taken, fun k t there => ?_, fun k t there => ?_⟩
  · rw [held, tasks]
    by_cases own : k = me
    · simp [own]
    · rw [if_neg own, if_neg own, marked.held]
  · rw [tasks] at there
    split at there
    · cases there
      exact once
    · exact marked.once k t there
  · rw [tasks] at there
    split at there
    · cases there
      exact grounded
    · exact marked.grounded k t there

/-- A lock stays taken exactly while there is a mark, if one of them is changed along with the other. -/
theorem taken_of_update {marks after : Nat → Option Nat × Bool} {i : Nat} {mark : Option Nat}
    (taken : ∀ j, (marks j).2 = (marks j).1.isSome)
    (updated : after = Function.update marks i (mark, mark.isSome)) (j : Nat) :
    (after j).2 = (after j).1.isSome := by
  rw [updated]
  by_cases here : j = i
  · rw [here, Function.update_self]
  · rw [Function.update_of_ne here, taken]

/-- What an action does to the marks: those of the task that acts come to be where it is in a fetch, the
others stay as they are. -/
theorem TaskLoop.Marked.shifted (marked : loop.Marked) (found : loop.tasks[me]? = some task)
    {objects : List Nat} {session : Session}
    (shifts : Task.Shifts me loop.session task.objects objects session) :
    objects.Nodup ∧
    (∀ j k, (session.marks (·.taskMark) j).1 = some k ↔
      if k = me then j ∈ objects else (loop.session.marks (·.taskMark) j).1 = some k) ∧
    ∀ j, (session.marks (·.taskMark) j).2 = (session.marks (·.taskMark) j).1.isSome := by
  have mine := marked.mine found
  have once := marked.once me task found
  cases shifts with
  | stays marks =>
      rw [marks]
      refine ⟨once, fun j k => ?_, marked.taken⟩
      by_cases own : k = me
      · rw [if_pos own, own, mine]
      · rw [if_neg own]
  | @enters i _ free marks =>
      have unmarked : (loop.session.marks (·.taskMark) i).1 = none := by
        have taken := marked.taken i
        rw [free] at taken
        exact Option.not_isSome_iff_eq_none.mp (Bool.eq_false_iff.mp taken.symm)
      have off : i ∉ task.objects := by
        rw [← mine, unmarked]
        exact nofun
      refine ⟨List.nodup_cons.mpr ⟨off, once⟩, fun j k => ?_, taken_of_update marked.taken marks⟩
      rw [marks]
      by_cases here : j = i
      · rw [here, Function.update_self, unmarked]
        by_cases own : k = me
        · simp [own]
        · simp [own, Ne.symm own]
      · rw [Function.update_of_ne here, List.mem_cons, ← mine]
        by_cases own : k = me
        · simp [own, here]
        · simp [own]
  | @ends i rest _ innermost marks =>
      rw [innermost, List.nodup_cons] at once
      have held : (loop.session.marks (·.taskMark) i).1 = some me := by
        rw [mine, innermost]
        exact List.mem_cons_self
      refine ⟨once.2, fun j k => ?_, taken_of_update marked.taken marks⟩
      rw [marks]
      by_cases here : j = i
      · rw [here, Function.update_self, held]
        by_cases own : k = me
        · simp [own, once.1]
        · simp [own, Ne.symm own]
      · rw [Function.update_of_ne here]
        by_cases own : k = me
        · rw [if_pos own, own, mine, innermost, List.mem_cons]
          simp [here]
        · rw [if_neg own]

/-- An action of a task keeps the marks of all tasks in step with their fetches. -/
theorem TaskLoop.Marked.acts (marked : loop.Marked) (found : loop.tasks[me]? = some task)
    (acts : Task.Acts me loop.session task.objects went) :
    TaskLoop.Marked ⟨loop.tasks.set me went.1, went.2⟩ := by
  obtain ⟨once, held, taken⟩ := marked.shifted found acts.shifts
  exact marked.acted found acts.grounded once held taken

theorem TaskLoop.Marked.update (marked : loop.Marked) {change : Session → Task → Task × Session}
    (acts : ∀ task, loop.tasks[me]? = some task →
      Task.Acts me loop.session task.objects (change loop.session task)) :
    (loop.update me change).Marked := by
  unfold TaskLoop.update
  cases found : loop.tasks[me]? with
  | none => exact marked
  | some task => exact marked.acts found (acts task found)

/-- A round begins without a mark. -/
theorem marked_start (jobs : List Job) (s : Session) : (TaskLoop.start jobs s).Marked := by
  have unmarked (j : Nat) : (TaskLoop.start jobs s).session.marks (·.taskMark) j = (none, false) := by
    by_cases inside : j < s.objects.length
    · simp [TaskLoop.start, Session.beginRound, Session.marks, Session.object, inside, ChildCache.renew,
        ChildCache.taskMark, Turnstile.free]
    · rw [Session.marks, object_of_absent (by simpa [TaskLoop.start, Session.beginRound] using inside)]
      rfl
  have fresh (me : Nat) (task : Task) (found : (TaskLoop.start jobs s).tasks[me]? = some task) :
      task.objects = [] ∧ task.Grounded := by
    obtain ⟨job, _, rfl⟩ : ∃ job, jobs[me]? = some job ∧ job.task = task := by
      simpa [TaskLoop.start, Option.map_eq_some_iff] using found
    cases job <;> exact ⟨rfl, trivial⟩
  refine ⟨fun j me => ?_, fun j => ?_, fun me task found => ?_, fun me task found => ?_⟩
  · rw [unmarked]
    constructor
    · intro impossible
      cases impossible
    · rintro ⟨task, found, there⟩
      rw [(fresh me task found).1] at there
      cases there
  · rw [unmarked]
    rfl
  · rw [(fresh me task found).1]
    exact List.nodup_nil
  · exact (fresh me task found).2

/-- A round that begins leaves the marks of direct fetches as they are. -/
theorem directMarks_beginRound (s : Session) :
    s.beginRound.marks (·.directMark) = s.marks (·.directMark) := by
  funext j
  by_cases inside : j < s.objects.length
  · simp [Session.beginRound, Session.marks, Session.object, inside, ChildCache.renew,
      ChildCache.directMark]
  · simp [Session.beginRound, Session.marks, Session.object, inside]

namespace TaskLoop.Reaches

variable {jobs : List Job} {s : Session} (reaches : TaskLoop.Reaches jobs s loop)
include reaches

theorem marked : loop.Marked := by
  induction reaches with
  | start => exact marked_start jobs s
  | go me _ addressed ih =>
      exact ih.update fun task found => acts_step (ih.grounded me task found) (addressed task found)
  | cancel me _ ih => exact ih.update fun task found => acts_cancel (ih.grounded me task found)

/-- A round leaves the marks of direct fetches as they are. -/
theorem directMarks : loop.session.marks (·.directMark) = s.marks (·.directMark) := by
  induction reaches with
  | start => exact directMarks_beginRound s
  | go me _ _ ih => exact (directMarks_move _ (.go me)).trans ih
  | cancel me _ ih => exact (directMarks_move _ (.cancel me)).trans ih

end TaskLoop.Reaches

end

end Syscat
