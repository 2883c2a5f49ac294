/-
Module: Syscat.Proofs.Cache.Tasks
Purpose: The actions of tasks keep a session faithful. Between two actions no direct fetch is in progress,
  and the fetches that a task is in are in progress in its name, so that nobody else can end them.
Main exports: Quiet, Stacked, Task.Sound, Proceeds, GoesOn, goesOn_step, goesOn_cancel
-/
import Syscat.Proofs.Cache.Fetching

namespace Syscat.Replay

/-- A faithful session in which no direct fetch is in progress. -/
structure Quiet (holders : List CacheHolder) (s : Session) : Prop where
  faithful : Faithful holders s
  idle : ∀ i, i < holders.length → current i .direct s.history = none

/-- The fetches that a task is in are in progress in its name, one at most for each object. -/
structure Stacked (holders : List CacheHolder) (me : Nat) (h : History)
    (stack : List Pending) : Prop where
  opened : ∀ p ∈ stack, p.object < holders.length → Ticket.OpenIn p.ticket p.object (.task me) h
  distinct : stack.Pairwise fun p q => p.object < holders.length → p.object ≠ q.object

/-- What a task still has to do agrees with the history. -/
def Task.Sound (holders : List CacheHolder) (me : Nat) (h : History) : Task → Prop
  | .going _ stack | .paused _ stack => Stacked holders me h stack
  | .waiting i request _ _ stack => (i < holders.length → h[request]? = some (.queued i)) ∧
      Stacked holders me h stack
  | .done _ | .clearing _ | .requesting _ _ => True

/-- A task has gone on from one quiet session to another. The fetches of the other tasks are in progress
as before. -/
structure Proceeds (holders : List CacheHolder) (me : Nat) (s after : Session) : Prop where
  quiet : Quiet holders after
  longer : s.history <+: after.history
  others : ∀ other, other ≠ me → ∀ i, i < holders.length → ∀ t : Ticket,
    Ticket.OpenIn t i (.task other) s.history → Ticket.OpenIn t i (.task other) after.history

/-- A task has gone on soundly. -/
structure GoesOn (holders : List CacheHolder) (me : Nat) (s : Session)
    (went : Task × Session) : Prop where
  proceeds : Proceeds holders me s went.2
  sound : Task.Sound holders me went.2.history went.1

section
variable {holders : List CacheHolder} {me : Nat} {s middle after : Session} {i : Nat}

/-! ### Going on -/

theorem Proceeds.refl (quiet : Quiet holders s) : Proceeds holders me s s :=
  ⟨quiet, List.prefix_rfl, fun _ _ _ _ _ opened => opened⟩

theorem Proceeds.trans (first : Proceeds holders me s middle)
    (second : Proceeds holders me middle after) : Proceeds holders me s after := by
  refine ⟨second.quiet, first.longer.trans second.longer, ?_⟩
  intro other different i known t opened
  exact second.others other different i known t (first.others other different i known t opened)

theorem Proceeds.goesOn (first : Proceeds holders me s middle) {went : Task × Session}
    (second : GoesOn holders me middle went) : GoesOn holders me s went :=
  ⟨first.trans second.proceeds, second.sound⟩

theorem Stacked.nil (h : History) : Stacked holders me h [] :=
  ⟨by simp, List.Pairwise.nil⟩

theorem Stacked.tail {h : History} {p : Pending} {stack : List Pending}
    (stacked : Stacked holders me h (p :: stack)) : Stacked holders me h stack :=
  ⟨fun q member => stacked.opened q (List.mem_cons_of_mem p member), stacked.distinct.of_cons⟩

/-- The fetches that a task is in stay in progress while something else happens. -/
theorem Stacked.extend {h longer : History} {stack : List Pending} (stacked : Stacked holders me h stack)
    (more : h <+: longer) (same : ∀ p ∈ stack, p.object < holders.length →
      current p.object .tasks longer = current p.object .tasks h) : Stacked holders me longer stack :=
  ⟨fun p member known => (stacked.opened p member known).extend more (same p member known),
    stacked.distinct⟩

/-- Nothing that leaves all fetches in progress as they are disturbs a task. -/
theorem Proceeds.of_same (quiet : Quiet holders s) (faithful : Faithful holders after)
    (longer : s.history <+: after.history)
    (same : ∀ i, i < holders.length → ∀ lane, current i lane after.history = current i lane s.history) :
    Proceeds holders me s after := by
  refine ⟨⟨faithful, ?_⟩, longer, ?_⟩
  · intro i known
    rw [same i known .direct]
    exact quiet.idle i known
  · intro other _ i known t opened
    exact opened.extend longer (same i known .tasks)

/-- What is done directly, and whatever is done there, leaves a task in its fetches. -/
theorem Carries.proceeds (carried : Carries holders s after) (quiet : Quiet holders s)
    (faithful : Faithful holders after) : Proceeds holders me s after :=
  Proceeds.of_same quiet faithful carried.longer carried.running

theorem Carries.stacked (carried : Carries holders s after) {stack : List Pending}
    (stacked : Stacked holders me s.history stack) : Stacked holders me after.history stack :=
  stacked.extend carried.longer fun p _ known => carried.running p.object known .tasks

/-- An event that neither enters nor ends a fetch leaves the fetches in progress as they are. -/
theorem Proceeds.of_event (quiet : Quiet holders s) (faithful : Faithful holders after) {e : Event}
    (history : after.history = s.history ++ [e])
    (idle : ∀ j lane running, e.currentAfter j lane running = running) : Proceeds holders me s after := by
  apply Proceeds.of_same quiet faithful
  · rw [history]
    exact List.prefix_append _ _
  · intro j _ lane
    rw [history, current_append, idle]

theorem Stacked.of_event {h : History} {stack : List Pending} (stacked : Stacked holders me h stack)
    {e : Event} (idle : ∀ j lane running, e.currentAfter j lane running = running) :
    Stacked holders me (h ++ [e]) stack := by
  apply stacked.extend (List.prefix_append _ _)
  intro p _ _
  rw [current_append, idle]

/-! ### Waiting for a lock -/

/-- A change of the queue for a lock along with an event that begins and ends nothing. -/
theorem Faithful.changeQueue (faithful : Faithful holders s) {e : Event} (about : e.object? = some i)
    (change : Turnstile → Turnstile) (kept : ∀ t, (change t).taken = t.taken)
    (permitted : i < holders.length → Permitted holders s.history e) (clear : e.clears i = false)
    (store : e.kept? i = none) (idle : ∀ lane running, e.currentAfter i lane running = running) :
    Faithful holders ((s.updateCache i fun c =>
      { c with turnstile := change c.turnstile }).record e) := by
  refine faithful.change about _ permitted ?_
  intro known matched
  obtain ⟨stored, generation, fetching, locked, taken, working⟩ := matched.of_idle clear store idle
  exact ⟨stored, generation, fetching, locked, (kept _).trans taken, working⟩

theorem Faithful.joinQueue (faithful : Faithful holders s) (me : Nat)
    (empty : i < holders.length → contents i s.history = none) : Faithful holders (s.joinQueue i me) :=
  faithful.changeQueue (by rfl) (·.join me) (fun _ => rfl) empty rfl rfl fun _ _ => rfl

theorem Faithful.withdraw (faithful : Faithful holders s) (me : Nat) {request : Nat}
    (queued : i < holders.length → s.history[request]? = some (.queued i)) :
    Faithful holders (s.withdraw i me request) :=
  faithful.changeQueue (by rfl) (·.quit me) (fun _ => rfl) queued rfl rfl fun _ _ => rfl

theorem Faithful.passThrough (faithful : Faithful holders s) (me : Nat) {request : Nat} {result : Stored}
    (requested : i < holders.length → Requested s.history i request)
    (stored : (s.object i).cache.stored = some result) :
    Faithful holders (s.passThrough i me request (.ok result)) := by
  refine faithful.changeQueue (by rfl) (·.quit me) (fun _ => rfl) ?_ rfl rfl fun _ _ => rfl
  intro known
  exact ⟨requested known, result, (faithful.caches i known).stored.symm.trans stored, rfl⟩

/-! ### Fetches of tasks -/

/-- The lock of an object's cache is free for tasks exactly if no fetch of a task is in progress. -/
theorem Faithful.free_of_not_taken (faithful : Faithful holders s) (known : i < holders.length)
    (free : (s.object i).cache.turnstile.taken = false) : current i .tasks s.history = none := by
  have taken := (faithful.caches i known).taken
  rw [free] at taken
  exact Option.isNone_iff_eq_none.mp (Option.isSome_eq_false_iff.mp taken.symm)

/-- A task enters a fetch where none is in progress, so it disturbs nobody. -/
theorem Proceeds.beginFetch (quiet : Quiet holders s) {request : Nat}
    (requested : i < holders.length → Requested s.history i request)
    (empty : i < holders.length → contents i s.history = none)
    (free : i < holders.length → current i .tasks s.history = none) :
    Proceeds holders me s (s.beginFetch i request (.task me)) := by
  refine ⟨⟨quiet.faithful.beginFetch requested empty free (quiet.idle i), ?_⟩, List.prefix_append _ _, ?_⟩
  · intro j known
    rw [history_beginFetch, current_append]
    simp [Event.currentAfter, Way.lane, quiet.idle j known]
  · intro other _ j known t opened
    apply opened.extend (List.prefix_append _ _)
    have apart : i ≠ j := by
      rintro rfl
      have running := opened.running
      rw [Way.lane, free known] at running
      cases running
    rw [current_append]
    simp [Event.currentAfter, apart]

theorem Stacked.push (quiet : Quiet holders s) {stack : List Pending}
    (stacked : Stacked holders me s.history stack)
    (free : i < holders.length → current i .tasks s.history = none) (request : Nat)
    (next : Continuation) :
    Stacked holders me (s.beginFetch i request (.task me)).history
      (⟨i, s.ticket i request, next⟩ :: stack) := by
  have apart : ∀ p ∈ stack, i < holders.length → i ≠ p.object := by
    rintro p member known rfl
    have running := (stacked.opened p member known).running
    rw [Way.lane, free known] at running
    cases running
  constructor
  · intro p member known
    rcases List.mem_cons.mp member with rfl | inside
    · exact openIn_beginFetch quiet.faithful known request (.task me)
    · apply (stacked.opened p inside known).extend (List.prefix_append _ _)
      have different : i ≠ p.object := fun same => apart p inside (same ▸ known) same
      rw [current_append]
      simp [Event.currentAfter, different]
  · exact List.Pairwise.cons apart stacked.distinct

/-- A task ends the fetch that is in progress in its own name, so it disturbs nobody. -/
theorem Proceeds.finishFetch (quiet : Quiet holders s) {t : Ticket}
    (opened : i < holders.length → Ticket.OpenIn t i (.task me) s.history)
    (outcome : Except Failure (List Child)) :
    Proceeds holders me s (s.finishFetch i (.task me) t outcome).2 := by
  have ended : Faithful holders (s.finishFetch i (.task me) t outcome).2 := by
    apply quiet.faithful.finishFetch outcome opened
    intro known other running
    rw [quiet.idle i known] at running
    cases running
  obtain ⟨kept, history⟩ := history_finishFetch s i (.task me) t outcome
  refine ⟨⟨ended, ?_⟩, ⟨_, history.symm⟩, ?_⟩
  · intro j known
    rw [history, current_append]
    simp [Event.currentAfter, Way.lane, quiet.idle j known]
  · intro other different j known u theirs
    apply theirs.extend ⟨_, history.symm⟩
    -- For the same object both fetches would be the one in progress.
    have apart : i ≠ j := by
      rintro rfl
      exact different (Way.task.inj (theirs.unique (opened known) rfl))
    rw [history, current_append]
    simp [Event.currentAfter, apart]

theorem Stacked.pop {p : Pending} {stack : List Pending}
    (stacked : Stacked holders me s.history (p :: stack)) (outcome : Except Failure (List Child)) :
    Stacked holders me (s.finishFetch p.object (.task me) p.ticket outcome).2.history stack := by
  obtain ⟨kept, history⟩ := history_finishFetch s p.object (.task me) p.ticket outcome
  rw [history]
  apply stacked.tail.extend (List.prefix_append _ _)
  intro q member known
  have apart : p.object ≠ q.object := by
    intro same
    exact List.rel_of_pairwise_cons stacked.distinct member (same ▸ known) same
  rw [current_append]
  simp [Event.currentAfter, apart]

/-! ### Actions of tasks -/

theorem Faithful.report (faithful : Faithful holders s) (result : Stored) :
    Faithful holders (s.report result).2 :=
  faithful.of_same (s.objects_report result) (s.history_report result)

theorem goesOn_resume (quiet : Quiet holders s) {stack : List Pending}
    (stacked : Stacked holders me s.history stack) (answer : Except Failure Stored)
    (next : Continuation) : GoesOn holders me s (Task.resume answer stack s next) := by
  cases next with
  | some next => exact ⟨Proceeds.refl quiet, stacked⟩
  | none =>
      cases answer with
      | ok result =>
          refine ⟨?_, trivial⟩
          apply Proceeds.of_same quiet (quiet.faithful.report result)
          · simp
          · simp
      | error failure => exact ⟨Proceeds.refl quiet, trivial⟩

/-- A task that has the lock of an object's cache goes on soundly. -/
theorem goesOn_enter (quiet : Quiet holders s) {stack : List Pending}
    (stacked : Stacked holders me s.history stack) {request : Nat}
    (requested : i < holders.length → Requested s.history i request)
    (free : (s.object i).cache.turnstile.taken = false) (fetch : AsyncFetch) (next : Continuation) :
    GoesOn holders me s (Task.enter me i request fetch next stack s) := by
  unfold Task.enter
  split
  · next result stored =>
      have passed : Proceeds holders me s (s.passThrough i me request (.ok result)) :=
        Proceeds.of_event quiet (quiet.faithful.passThrough me requested stored) rfl fun _ _ _ => rfl
      exact passed.goesOn (goesOn_resume passed.quiet (stacked.of_event fun _ _ _ => rfl) _ next)
  · next stored =>
      have idle (known : i < holders.length) := quiet.faithful.free_of_not_taken known free
      refine ⟨Proceeds.beginFetch quiet requested ?_ idle, stacked.push quiet idle request next⟩
      exact fun known => (quiet.faithful.caches i known).stored.symm.trans stored

theorem atOnce_of_taskAnswer? {source : Source} {answer : Except Failure Stored}
    (found : s.taskAnswer? i me = some (source, answer)) :
    AtOnce (s.object i).cache.stored source answer := by
  unfold Session.taskAnswer? at found
  cases stored : (s.object i).cache.stored with
  | some result =>
      simp only [stored] at found
      cases found
      exact Or.inl ⟨rfl, result, rfl, rfl⟩
  | none =>
      simp only [stored] at found
      split at found
      · cases found
        exact Or.inr ⟨rfl, rfl, _, rfl⟩
      · cases found

theorem goesOn_ask (quiet : Quiet holders s) {stack : List Pending}
    (stacked : Stacked holders me s.history stack) (i : Nat) (fetch : AsyncFetch)
    (next : Continuation) : GoesOn holders me s (Task.ask me i fetch next stack s) := by
  unfold Task.ask
  split
  · next source answer found =>
      have atOnce := atOnce_of_taskAnswer? found
      have carried : Carries holders s (s.record (.answered i s.now source answer)) :=
        carries_answerAtOnce atOnce
      have answered : Proceeds holders me s (s.record (.answered i s.now source answer)) :=
        carried.proceeds quiet (quiet.faithful.answerAtOnce atOnce)
      exact answered.goesOn (goesOn_resume answered.quiet (carried.stacked stacked) answer next)
  · next unanswered =>
      split
      · next free =>
          refine goesOn_enter quiet stacked (fun _ => Or.inl rfl) ?_ fetch next
          simpa using (Bool.and_eq_true_iff.mp free).1
      · have empty := (Session.taskAnswer?_eq_none_iff.mp unanswered).1
        have joined : Faithful holders (s.joinQueue i me) :=
          quiet.faithful.joinQueue me fun known =>
            (quiet.faithful.caches i known).stored.symm.trans empty
        refine ⟨Proceeds.of_event quiet joined rfl fun _ _ _ => rfl, ?_, ?_⟩
        · intro _
          simp [Session.joinQueue, Session.now]
        · exact stacked.of_event fun _ _ _ => rfl

theorem goesOn_conclude (quiet : Quiet holders s) {stack : List Pending}
    (stacked : Stacked holders me s.history stack) (outcome : Except Failure (List Child)) :
    GoesOn holders me s (Task.conclude me outcome s stack) := by
  cases stack with
  | nil => exact ⟨Proceeds.refl quiet, trivial⟩
  | cons p stack =>
      have ended := Proceeds.finishFetch quiet (stacked.opened p List.mem_cons_self) outcome
      exact ended.goesOn (goesOn_resume ended.quiet (stacked.pop outcome) _ p.next)

/-- A direct action inside a fetch of a task is over before the task goes on. -/
theorem goesOn_directly (quiet : Quiet holders s) {stack : List Pending}
    (stacked : Stacked holders me s.history stack) (faithful : Faithful holders after)
    (carried : Carries holders s after) (fetch : AsyncFetch) :
    GoesOn holders me s (.going fetch stack, after) :=
  ⟨carried.proceeds quiet faithful, carried.stacked stacked⟩

theorem goesOn_carryOut (quiet : Quiet holders s) {stack : List Pending}
    (stacked : Stacked holders me s.history stack) (fetch : AsyncFetch) :
    GoesOn holders me s (Task.carryOut me stack s fetch) := by
  cases fetch with
  | finish outcome =>
      have noted : Proceeds holders me s (s.note outcome.notices) :=
        Proceeds.of_same quiet (quiet.faithful.of_same rfl rfl) List.prefix_rfl fun _ _ _ => rfl
      exact noted.goesOn (goesOn_conclude noted.quiet stacked outcome.result)
  | clear i next => exact goesOn_directly quiet stacked (quiet.faithful.clear i) (carries_clear i) _
  | peek i next => exact goesOn_directly quiet stacked (quiet.faithful.peek i) (carries_peek i) _
  | copy i update next =>
      exact goesOn_directly quiet stacked (quiet.faithful.copy i update) (carries_copy i update) _
  | get i inner next =>
      obtain ⟨faithful, carried⟩ := quiet.faithful.get i inner
      exact goesOn_directly quiet stacked faithful carried _
  | aget i inner next => exact goesOn_ask quiet stacked i inner (some next)
  | await next => exact ⟨Proceeds.refl quiet, stacked⟩

theorem goesOn_step (quiet : Quiet holders s) {task : Task}
    (sound : Task.Sound holders me s.history task) : GoesOn holders me s (Task.step me s task) := by
  cases task with
  | done result => exact ⟨Proceeds.refl quiet, trivial⟩
  | clearing i =>
      exact ⟨(carries_clear i).proceeds quiet (quiet.faithful.clear i), trivial⟩
  | requesting i fetch => exact goesOn_ask quiet (Stacked.nil _) i fetch none
  | going fetch stack => exact goesOn_carryOut quiet sound fetch
  | paused next stack => exact ⟨Proceeds.refl quiet, sound⟩
  | waiting i request fetch next stack =>
      obtain ⟨queued, stacked⟩ := sound
      rw [Task.step]
      split
      · next letIn =>
          refine goesOn_enter quiet stacked (fun known => Or.inr (queued known)) ?_ fetch next
          simpa using (Bool.and_eq_true_iff.mp letIn).1
      · exact ⟨Proceeds.refl quiet, queued, stacked⟩

theorem goesOn_cancel (quiet : Quiet holders s) {task : Task}
    (sound : Task.Sound holders me s.history task) : GoesOn holders me s (Task.cancel me s task) := by
  cases task with
  | done result => exact ⟨Proceeds.refl quiet, trivial⟩
  | clearing i => exact ⟨Proceeds.refl quiet, trivial⟩
  | requesting i fetch => exact ⟨Proceeds.refl quiet, trivial⟩
  | going fetch stack => exact ⟨Proceeds.refl quiet, sound⟩
  | paused next stack => exact ⟨Proceeds.refl quiet, sound⟩
  | waiting i request fetch next stack =>
      obtain ⟨queued, stacked⟩ := sound
      have left : Proceeds holders me s (s.withdraw i me request) :=
        Proceeds.of_event quiet (quiet.faithful.withdraw me queued) rfl fun _ _ _ => rfl
      exact left.goesOn (goesOn_resume left.quiet (stacked.of_event fun _ _ _ => rfl) _ next)

end

end Syscat.Replay
