/-
Module: Syscat.Proofs.Cache.Ways
Purpose: Requests from inside fetches for the same children, over both ways of requesting. A request is
  refused exactly if a fetch of its own way for the object is around it. One that comes the other way is
  not: it goes for its fetch, although a fetch for the same children is in progress.
Main exports: Inside, Inside.marked, Session.Refuses, Session.Admits, refuses_iff_sameWay,
  not_forall_refuses
-/
import Mathlib.Data.List.Nodup
import Syscat.Proofs.Cache.Marks
import Syscat.Proofs.Cache.Reentrance

namespace Syscat

/-! ### Inside fetches -/

/-- A session as it is inside fetches for some objects, the innermost one first, each with the way it
is made: after a run, in direct fetches, and in the fetches of a task of a round that was begun there.
A fetch may do anything, request children and run a round among it, and end in any way. The task is
the one that runs, none outside of rounds, and only outside of them a round can begin. -/
inductive Inside (holders : List CacheHolder) : Option Nat → List (Nat × Way) → Session → Prop where
  | run (phases : List Phase) : Inside holders none [] ((Session.start holders).play phases)
  | enter {me : Option Nat} {around : List (Nat × Way)} {s : Session} {i : Nat}
      (inside : Inside holders me around s) (present : i < s.objects.length)
      (unanswered : s.directAnswer? i = none) :
      Inside holders me ((i, .direct) :: around) (s.beginFetch i s.now .direct)
  | leave {me : Option Nat} {around : List (Nat × Way)} {s : Session} {i : Nat} (ticket : Ticket)
      (outcome : Except Failure (List Child)) (inside : Inside holders me ((i, .direct) :: around) s) :
      Inside holders me around (s.finishFetch i .direct ticket outcome).2
  | get {me : Option Nat} {around : List (Nat × Way)} {s : Session} (i : Nat) (fetch : Fetch)
      (inside : Inside holders me around s) : Inside holders me around (s.get i fetch).2
  | clear {me : Option Nat} {around : List (Nat × Way)} {s : Session} (i : Nat)
      (inside : Inside holders me around s) : Inside holders me around (s.clear i).2
  | peek {me : Option Nat} {around : List (Nat × Way)} {s : Session} (i : Nat)
      (inside : Inside holders me around s) : Inside holders me around (s.peek i).2
  | copy {me : Option Nat} {around : List (Nat × Way)} {s : Session} (i : Nat) (update : Fields)
      (inside : Inside holders me around s) : Inside holders me around (s.copy i update).2
  | task {around : List (Nat × Way)} {s : Session} {jobs : List Job} {loop : TaskLoop} {me : Nat}
      {task : Task} (inside : Inside holders none around s) (reaches : TaskLoop.Reaches jobs s loop)
      (found : loop.tasks[me]? = some task) :
      Inside holders (some me) (task.objects.map (·, .task me) ++ around) loop.session
  | roundEnded {around : List (Nat × Way)} {s : Session} {jobs : List Job} {loop : TaskLoop}
      (inside : Inside holders none around s) (reaches : TaskLoop.Reaches jobs s loop) :
      Inside holders none around loop.session

/-- The moments of an outermost direct request are inside the fetches on their call stack. -/
theorem Moment.Occurs.isInside {holders : List CacheHolder} {m : Moment} (occurs : m.Occurs holders) :
    Inside holders none (m.stack.map (·, .direct)) m.session := by
  induction occurs with
  | outermost phases fetch run present unanswered =>
      subst run
      exact (Inside.run phases).enter present unanswered
  | next occurs leads ih =>
      cases leads with
      | clear => exact ih.clear _
      | peek => exact ih.peek _
      | copy => exact ih.copy _ _
      | into present unanswered => exact ih.enter present unanswered
      | behind => exact ih.get _ _

/-- The marks of the caches tell which fetches are around: those of direct fetches mark the objects of the
direct ones, and those of the task that runs the objects of its own. -/
structure MarkedAround (me : Option Nat) (around : List (Nat × Way)) (s : Session) : Prop where
  direct : ∀ j, s.marks (·.directMark) j = if (j, .direct) ∈ around then (true, true) else (false, false)
  task : ∀ k, me = some k → ∀ j, (s.marks (·.taskMark) j).1 = some k ↔ (j, .task k) ∈ around
  once : around.Nodup
  noTask : me = none → ∀ fetch ∈ around, fetch.2 = .direct

section
variable {me : Option Nat} {around : List (Nat × Way)} {s after : Session} {i : Nat}

/-- What leaves the marks alone leaves them telling the same. -/
theorem MarkedAround.of_same (marked : MarkedAround me around s)
    (direct : after.marks (·.directMark) = s.marks (·.directMark))
    (tasks : after.marks (·.taskMark) = s.marks (·.taskMark)) : MarkedAround me around after :=
  ⟨direct ▸ marked.direct, tasks ▸ marked.task, marked.once, marked.noTask⟩

theorem markedAround_run (holders : List CacheHolder) (phases : List Phase) :
    MarkedAround none [] ((Session.start holders).play phases) := by
  have free := (balanced_start holders).play phases
  refine ⟨fun j => ?_, nofun, List.nodup_nil, nofun⟩
  by_cases present : j < ((Session.start holders).play phases).objects.length
  · exact Prod.ext (free.fetching j present) (free.locked j present)
  · rw [Session.marks, object_of_absent (Nat.le_of_not_lt present)]
    rfl

theorem MarkedAround.enter (marked : MarkedAround me around s) (present : i < s.objects.length)
    (unanswered : s.directAnswer? i = none) :
    MarkedAround me ((i, .direct) :: around) (s.beginFetch i s.now .direct) := by
  have off : (i, Way.direct) ∉ around := by
    intro there
    have unmarked := directMark_of_unanswered unanswered
    rw [marked.direct, if_pos there] at unmarked
    cases unmarked
  refine ⟨fun j => ?_, fun k runs j => ?_, List.nodup_cons.mpr ⟨off, marked.once⟩, fun none => ?_⟩
  · rw [directMarks_beginFetch_direct present]
    by_cases here : j = i
    · simp [here]
    · rw [Function.update_of_ne here, marked.direct]
      simp [here]
  · rw [taskMarks_beginFetch_direct, marked.task k runs]
    simp
  · intro fetch there
    rcases List.mem_cons.mp there with rfl | there
    · rfl
    · exact marked.noTask none fetch there

theorem MarkedAround.leave (marked : MarkedAround me ((i, .direct) :: around) s) (ticket : Ticket)
    (outcome : Except Failure (List Child)) :
    MarkedAround me around (s.finishFetch i .direct ticket outcome).2 := by
  obtain ⟨off, once⟩ := List.nodup_cons.mp marked.once
  refine ⟨fun j => ?_, fun k runs j => ?_, once, fun none fetch there => ?_⟩
  · rw [directMarks_finishFetch_direct]
    by_cases here : j = i
    · simp [here, off]
    · rw [Function.update_of_ne here, marked.direct]
      simp [here]
  · rw [taskMarks_finishFetch_direct, marked.task k runs]
    simp
  · exact marked.noTask none fetch (List.mem_cons_of_mem _ there)

theorem MarkedAround.inTask (marked : MarkedAround none around s) {jobs : List Job} {loop : TaskLoop}
    (reaches : TaskLoop.Reaches jobs s loop) {k : Nat} {task : Task}
    (found : loop.tasks[k]? = some task) :
    MarkedAround (some k) (task.objects.map (·, .task k) ++ around) loop.session := by
  have tasks := reaches.marked
  -- outside of rounds all fetches are direct, so those of the task are the only ones of their way
  have noTask (j : Nat) : (j, Way.task k) ∉ around := by
    intro there
    cases marked.noTask rfl _ there
  refine ⟨fun j => ?_, fun k' runs j => ?_, ?_, nofun⟩
  · rw [reaches.directMarks, marked.direct]
    simp
  · cases runs
    rw [tasks.held, found]
    simp [noTask]
  · refine List.nodup_append.mpr ⟨?_, marked.once, ?_⟩
    · exact List.Nodup.map (fun _ _ same => congrArg Prod.fst same) (tasks.once k task found)
    · rintro fetch mine other there rfl
      obtain ⟨j, _, rfl⟩ := List.mem_map.mp mine
      exact noTask j there

theorem Inside.marked {holders : List CacheHolder} (inside : Inside holders me around s) :
    MarkedAround me around s := by
  induction inside with
  | run phases => exact markedAround_run holders phases
  | enter _ present unanswered ih => exact ih.enter present unanswered
  | leave ticket outcome _ ih => exact ih.leave ticket outcome
  | get i fetch _ ih => exact ih.of_same (directMarks_get fetch) (taskMarks_get fetch)
  | clear i _ ih => exact ih.of_same (marks_clear fun _ => rfl) (marks_clear fun _ => rfl)
  | peek i _ ih => exact ih.of_same rfl rfl
  | copy i update _ ih => exact ih.of_same (marks_copy update) (marks_copy update)
  | task _ reaches found ih => exact ih.inTask reaches found
  | roundEnded _ reaches ih => exact ⟨reaches.directMarks ▸ ih.direct, nofun, ih.once, ih.noTask⟩

end

/-! ### What becomes of a request -/

/-- The failure of a request from inside a fetch for the same children. It tells the name of the holder,
unless that cannot be written. -/
def Session.refusal (s : Session) (j : Nat) : Except Failure Stored :=
  .error (s.object j).holder.refusal

/-- The session after such a request, which is all that happens. -/
def Session.refused (s : Session) (j : Nat) : Session :=
  s.record (.answered j s.now .refused (s.refusal j))

/-- The ways in which children can be requested where a task runs, or none. -/
def Way.Open (me : Option Nat) : Way → Prop
  | .direct => True
  | .task k => me = some k

namespace Session

/-- Every request for an object that comes a certain way is refused: it fails, and no fetch is entered. -/
def Refuses (s : Session) (j : Nat) : Way → Prop
  | .direct => ∀ fetch : Fetch, s.get j fetch = (s.refusal j, s.refused j)
  | .task k => ∀ (fetch : AsyncFetch) (next : Continuation) (stack : List Pending),
      Task.ask k j fetch next stack s = Task.resume (s.refusal j) stack (s.refused j) next

/-- Every request for an object that comes a certain way goes for its fetch: it is entered at once, or a
task waits for the lock of its way. -/
def Admits (s : Session) (j : Nat) : Way → Prop
  | .direct => ∀ fetch : Fetch, s.get j fetch =
      let (outcome, after) := fetch.run (s.beginFetch j s.now .direct)
      after.finishFetch j .direct (s.ticket j s.now) outcome
  | .task k => ∀ (fetch : AsyncFetch) (next : Continuation) (stack : List Pending),
      Task.ask k j fetch next stack s =
        if (s.object j).cache.turnstile.isFree then
          (.going fetch (⟨j, s.ticket j s.now, next⟩ :: stack), s.beginFetch j s.now (.task k))
        else (.waiting j s.now fetch next stack, s.joinQueue j k)

end Session

section
variable {me : Option Nat} {around : List (Nat × Way)} {s : Session} {j : Nat}
  (marked : MarkedAround me around s) (empty : (s.object j).cache.stored = none)
include marked empty

theorem MarkedAround.direct_spec :
    ((j, .direct) ∈ around → s.Refuses j .direct) ∧ ((j, .direct) ∉ around → s.Admits j .direct) := by
  have marks := marked.direct j
  constructor
  · intro there fetch
    rw [if_pos there] at marks
    have fetching : (s.object j).cache.fetching = true := congrArg Prod.fst marks
    have answer : s.directAnswer? j = some (.refused, s.refusal j) :=
      Session.directAnswer?_of_fetching empty fetching
    simp only [Session.get, Session.request, answer, Session.refused]
  · intro off fetch
    rw [if_neg off] at marks
    have idle : (s.object j).cache.fetching = false := congrArg Prod.fst marks
    have unlocked : (s.object j).cache.locked = false := congrArg Prod.snd marks
    have unanswered : s.directAnswer? j = none :=
      Session.directAnswer?_eq_none_iff.mpr ⟨empty, unlocked, idle⟩
    simp only [Session.get, Session.request, unanswered]

theorem MarkedAround.task_spec {k : Nat} (runs : me = some k) :
    ((j, .task k) ∈ around → s.Refuses j (.task k)) ∧
      ((j, .task k) ∉ around → s.Admits j (.task k)) := by
  have marks := marked.task k runs j
  constructor
  · intro there fetch next stack
    have fetching : (s.object j).cache.fetchingTask = some k := marks.mpr there
    have answer : s.taskAnswer? j k = some (.refused, s.refusal j) :=
      Session.taskAnswer?_of_fetching empty fetching
    simp only [Task.ask, answer, Session.refused]
  · intro off fetch next stack
    have idle : (s.object j).cache.fetchingTask ≠ some k := fun fetching => off (marks.mp fetching)
    have unanswered : s.taskAnswer? j k = none :=
      Session.taskAnswer?_eq_none_iff.mpr ⟨empty, idle⟩
    simp only [Task.ask, unanswered, Task.enter, empty]

end

/-- Inside fetches, a request that finds the cache empty is refused if a fetch of its own way for the
object is around it, and goes for its fetch if not, also if a fetch of the other way is. This holds of
the moments of every outermost direct request. -/
theorem refuses_iff_sameWay (holders : List CacheHolder) :
    (∀ (me : Option Nat) (around : List (Nat × Way)) (s : Session), Inside holders me around s →
      ∀ (j : Nat) (way : Way), way.Open me → (s.object j).cache.stored = none →
        ((j, way) ∈ around → s.Refuses j way) ∧ ((j, way) ∉ around → s.Admits j way)) ∧
    ∀ m : Moment, m.Occurs holders → Inside holders none (m.stack.map (·, .direct)) m.session := by
  refine ⟨fun me around s inside j way possible empty => ?_, fun m occurs => occurs.isInside⟩
  cases way with
  | direct => exact inside.marked.direct_spec empty
  | task k => exact inside.marked.task_spec empty possible

/-! ### An object of either way -/

/-- A round with one task, which has entered its fetch for the first object. -/
def enteredRound (fetch : AsyncFetch) (s : Session) : TaskLoop :=
  (TaskLoop.start [.request 0 fetch] s).move (.go 0)

section
variable {holders : List CacheHolder} {s : Session} (fetch : AsyncFetch)

theorem reaches_enteredRound (present : 0 < s.objects.length) :
    TaskLoop.Reaches [.request 0 fetch] s (enteredRound fetch s) := by
  refine .go 0 .start fun task found => ?_
  cases found
  simpa [TaskLoop.start, Session.beginRound, Job.task, Task.Addressed] using present

/-- Inside a fetch that a task makes for the only object. -/
theorem inside_enteredRound (holder : CacheHolder) : Inside [holder] (some 0) [(0, .task 0)]
    (enteredRound fetch (Session.start [holder])).session := by
  have idle : Inside [holder] none [] (Session.start [holder]) := .run []
  have reaches : TaskLoop.Reaches [.request 0 fetch] (Session.start [holder])
      (enteredRound fetch (Session.start [holder])) := reaches_enteredRound fetch Nat.zero_lt_one
  have found : ∃ stack, (enteredRound fetch (Session.start [holder])).tasks[0]? =
      some (.going fetch stack) ∧ stack.map Pending.object = [0] := ⟨_, rfl, rfl⟩
  obtain ⟨stack, found, objects⟩ := found
  have inside := idle.task reaches found
  rw [Task.objects, Task.stack, objects] at inside
  exact inside

/-- Inside a direct fetch for the only object, where a round has begun. -/
theorem inside_startedRound (holder : CacheHolder) : Inside [holder] (some 0) [(0, .direct)]
    (TaskLoop.start [.request 0 fetch] ((Session.start [holder]).beginFetch 0 0 .direct)).session := by
  have idle : Inside [holder] none [] (Session.start [holder]) := .run []
  have outer := idle.enter (i := 0) Nat.zero_lt_one rfl
  have found : (TaskLoop.start [.request 0 fetch]
      ((Session.start [holder]).beginFetch 0 0 .direct)).tasks[0]? = some (.requesting 0 fetch) := rfl
  exact outer.task .start found

end

/-- An object, and a fetch that ends at once. -/
def soleHolder : CacheHolder := .other (.text "o")

def emptyFetch : AsyncFetch := .finish (.ofExcept (.ok []))

/-- Inside a task's fetch the task's own request is refused and a direct one is admitted, and inside a
direct fetch it is the other way round. -/
theorem refuses_iff_sameWay_soleHolder :
    let inTask := (enteredRound emptyFetch (Session.start [soleHolder])).session
    let inDirect := (TaskLoop.start [.request 0 emptyFetch]
      ((Session.start [soleHolder]).beginFetch 0 0 .direct)).session
    (inTask.Refuses 0 (.task 0) ∧ inTask.Admits 0 .direct) ∧
      inDirect.Refuses 0 .direct ∧ inDirect.Admits 0 (.task 0) := by
  intro inTask inDirect
  obtain ⟨spec, _⟩ := refuses_iff_sameWay [soleHolder]
  have task := inside_enteredRound emptyFetch soleHolder
  have direct := inside_startedRound emptyFetch soleHolder
  refine ⟨⟨?_, ?_⟩, ?_, ?_⟩
  · exact (spec _ _ inTask task 0 (.task 0) rfl rfl).1 (by decide)
  · exact (spec _ _ inTask task 0 .direct trivial rfl).2 (by decide)
  · exact (spec _ _ inDirect direct 0 .direct trivial rfl).1 (by decide)
  · exact (spec _ _ inDirect direct 0 (.task 0) rfl rfl).2 (by decide)

/-- A request that comes the other way than the fetch around it is not refused: neither a direct one from
inside a task's fetch, nor a task's from inside a direct fetch. -/
theorem not_forall_refuses :
    (¬ ∀ (holders : List CacheHolder) (k : Nat) (around : List (Nat × Way)) (s : Session),
      Inside holders (some k) around s → ∀ j, (j, .task k) ∈ around →
        (s.object j).cache.stored = none → s.Refuses j .direct) ∧
    ¬ ∀ (holders : List CacheHolder) (k : Nat) (around : List (Nat × Way)) (s : Session),
      Inside holders (some k) around s → ∀ j, (j, .direct) ∈ around →
        (s.object j).cache.stored = none → s.Refuses j (.task k) := by
  constructor
  · intro refuses
    have refused := refuses _ _ _ _ (inside_enteredRound emptyFetch soleHolder) 0 (by decide) rfl
      (.finish (.ofExcept (.ok [])))
    cases congrArg Prod.fst refused
  · intro refuses
    have refused := refuses _ _ _ _ (inside_startedRound emptyFetch soleHolder) 0 (by decide) rfl
      emptyFetch none []
    cases congrArg Prod.fst refused

end Syscat
