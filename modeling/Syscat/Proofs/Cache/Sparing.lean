/-
Module: Syscat.Proofs.Cache.Sparing
Purpose: Tasks none of which requests the children of an object directly. That is a matter of what they
  are made for, and shows in the history: no direct fetch for these children is entered.
Main exports: Fetch.Spares, AsyncFetch.Spares, Job.Spares, Spared, LoopSpares.follow
-/
import Syscat.Proofs.Cache.Loop

namespace Syscat

/-- A fetch makes no direct request for the children of an object. -/
def Fetch.Spares (i : Nat) : Fetch → Prop
  | finish _ => True
  | clear _ next => ∀ answer, (next answer).Spares i
  | peek _ next => ∀ populated, (next populated).Spares i
  | copy _ _ next => ∀ number, (next number).Spares i
  | get j inner next => j ≠ i ∧ inner.Spares i ∧ ∀ answer, (next answer).Spares i

/-- A fetch of a task makes no direct request for the children of an object. -/
def AsyncFetch.Spares (i : Nat) : AsyncFetch → Prop
  | finish _ => True
  | clear _ next => ∀ answer, (next answer).Spares i
  | peek _ next => ∀ populated, (next populated).Spares i
  | copy _ _ next => ∀ number, (next number).Spares i
  | get j inner next => j ≠ i ∧ inner.Spares i ∧ ∀ answer, (next answer).Spares i
  | aget _ inner next => inner.Spares i ∧ ∀ answer, (next answer).Spares i
  | await next => ∀ waking, (next waking).Spares i

/-- A task for a job makes no direct request for the children of an object. -/
def Job.Spares (i : Nat) : Job → Prop
  | clear _ => True
  | request _ fetch => fetch.Spares i
  | perform procedure => procedure.Spares i

namespace Replay

/-- An event enters no direct fetch for the children of an object, and begins no round. -/
def Event.Spares (i : Nat) : Event → Prop
  | .began => False
  | .entered j _ _ .direct => j ≠ i
  | _ => True

/-- Between two sessions no direct fetch for the children of an object is entered, and no round begins. -/
def Spared (i : Nat) (s after : Session) : Prop :=
  ∃ rest, after.history = s.history ++ rest ∧ ∀ e ∈ rest, Event.Spares i e

/-- The fetches to which a task returns make no direct request for the children of an object. -/
def StackSpares (i : Nat) (stack : List Pending) : Prop :=
  ∀ p ∈ stack, ∀ next, p.next = some next → ∀ answer, (next answer).Spares i

/-- What a task still has to do contains no direct request for the children of an object. -/
def Task.Spares (i : Nat) : Task → Prop
  | .done _ | .clearing _ => True
  | .requesting _ fetch => fetch.Spares i
  | .going fetch stack => fetch.Spares i ∧ StackSpares i stack
  | .paused next stack => (∀ waking, (next waking).Spares i) ∧ StackSpares i stack
  | .waiting _ _ fetch next stack =>
      fetch.Spares i ∧ (∀ go, next = some go → ∀ answer, (go answer).Spares i) ∧ StackSpares i stack

section
variable {i j me : Nat} {s middle after : Session} {stack : List Pending}

theorem Spared.of_eq (same : after.history = s.history) : Spared i s after :=
  ⟨[], by simp [same], by simp⟩

theorem Spared.trans (first : Spared i s middle) (second : Spared i middle after) : Spared i s after := by
  obtain ⟨rest, history, spared⟩ := first
  obtain ⟨more, history', spared'⟩ := second
  refine ⟨rest ++ more, ?_, ?_⟩
  · rw [history', history, List.append_assoc]
  · intro e member
    rcases List.mem_append.mp member with early | late
    · exact spared e early
    · exact spared' e late

theorem Spared.of_event {e : Event} (history : after.history = s.history ++ [e])
    (spares : Event.Spares i e) : Spared i s after := by
  refine ⟨[e], history, ?_⟩
  intro other member
  rw [List.mem_singleton.mp member]
  exact spares

/-! ### Direct actions -/

theorem spared_clear (i j : Nat) (s : Session) : Spared i s (s.clear j).2 := by
  unfold Session.clear
  split
  · exact Spared.of_eq rfl
  · exact Spared.of_event rfl trivial

theorem spared_peek (i j : Nat) (s : Session) : Spared i s (s.peek j).2 :=
  Spared.of_event rfl trivial

theorem spared_copy (i j : Nat) (s : Session) (update : Fields) : Spared i s (s.copy j update).2 :=
  Spared.of_eq rfl

theorem spared_beginFetch (request : Nat) {way : Way} (other : way = .direct → j ≠ i) :
    Spared i s (s.beginFetch j request way) := by
  apply Spared.of_event rfl
  cases way with
  | direct => exact other rfl
  | task me => trivial

theorem spared_finishFetch (way : Way) (t : Ticket) (outcome : Except Failure (List Child)) :
    Spared i s (s.finishFetch j way t outcome).2 :=
  Spared.of_event rfl trivial

/-- A direct request for the children of another object enters no fetch for those of this one if its
fetch does not. -/
theorem spared_request (other : j ≠ i) {carryOut : Session → Except Failure (List Child) × Session}
    (spares : ∀ s, Spared i s (carryOut s).2) : Spared i s (s.request j carryOut).2 := by
  unfold Session.request
  split
  · exact Spared.of_event rfl trivial
  · have begun : Spared i s (s.beginFetch j s.now .direct) := spared_beginFetch s.now fun _ => other
    exact (begun.trans (spares _)).trans (spared_finishFetch .direct _ _)

theorem spared_run (fetch : Fetch) : fetch.Spares i → ∀ s, Spared i s (fetch.run s).2 := by
  induction fetch with
  | finish outcome => exact fun _ s => Spared.of_eq rfl
  | clear j next hypothesis =>
      exact fun spares s => (spared_clear i j s).trans (hypothesis _ (spares _) _)
  | peek j next hypothesis =>
      exact fun spares s => (spared_peek i j s).trans (hypothesis _ (spares _) _)
  | copy j update next hypothesis =>
      exact fun spares s => (spared_copy i j s update).trans (hypothesis _ (spares _) _)
  | get j inner next innerHypothesis hypothesis =>
      intro ⟨other, inside, behind⟩ s
      have requested := spared_request (s := s) other (innerHypothesis inside)
      exact requested.trans (hypothesis _ (behind _) _)

/-! ### Actions of tasks -/

/-- A task goes on without a direct request for the children of an object, now and later. -/
def SparesOn (i : Nat) (s : Session) (went : Task × Session) : Prop :=
  Spared i s went.2 ∧ Task.Spares i went.1

theorem Spared.sparesOn (first : Spared i s middle) {went : Task × Session}
    (second : SparesOn i middle went) : SparesOn i s went :=
  ⟨first.trans second.1, second.2⟩

theorem sparesOn_resume (spares : StackSpares i stack) {next : Continuation}
    (behind : ∀ go, next = some go → ∀ answer, (go answer).Spares i) (answer : Except Failure Stored)
    (s : Session) : SparesOn i s (Task.resume answer stack s next) := by
  cases next with
  | some go => exact ⟨Spared.of_eq rfl, behind go rfl answer, spares⟩
  | none =>
      cases answer with
      | ok result => exact ⟨Spared.of_eq (s.history_report result), trivial⟩
      | error failure => exact ⟨Spared.of_eq rfl, trivial⟩

theorem sparesOn_enter (spares : StackSpares i stack) {fetch : AsyncFetch} (inside : fetch.Spares i)
    {next : Continuation} (behind : ∀ go, next = some go → ∀ answer, (go answer).Spares i)
    (j request : Nat) (s : Session) : SparesOn i s (Task.enter me j request fetch next stack s) := by
  unfold Task.enter
  split
  · have passed (answer) : Spared i s (s.passThrough j me request answer) :=
      Spared.of_event rfl trivial
    exact (passed _).sparesOn (sparesOn_resume spares behind _ _)
  · refine ⟨spared_beginFetch request Way.noConfusion, inside, ?_⟩
    intro p member
    rcases List.mem_cons.mp member with rfl | below
    · exact behind
    · exact spares p below

theorem sparesOn_ask (spares : StackSpares i stack) {fetch : AsyncFetch} (inside : fetch.Spares i)
    {next : Continuation} (behind : ∀ go, next = some go → ∀ answer, (go answer).Spares i)
    (j : Nat) (s : Session) : SparesOn i s (Task.ask me j fetch next stack s) := by
  unfold Task.ask
  split
  · have answered (source answer) : Spared i s (s.record (.answered j s.now source answer)) :=
      Spared.of_event rfl trivial
    exact (answered _ _).sparesOn (sparesOn_resume spares behind _ _)
  · split
    · exact sparesOn_enter spares inside behind j s.now s
    · exact ⟨Spared.of_event rfl trivial, inside, behind, spares⟩

theorem sparesOn_conclude (spares : StackSpares i stack) (outcome : Except Failure (List Child))
    (s : Session) : SparesOn i s (Task.conclude me outcome s stack) := by
  cases stack with
  | nil => exact ⟨Spared.of_eq rfl, trivial⟩
  | cons p stack =>
      have below : StackSpares i stack := fun q member => spares q (List.mem_cons_of_mem p member)
      exact (spared_finishFetch _ _ _).sparesOn
        (sparesOn_resume below (spares p List.mem_cons_self) _ _)

theorem sparesOn_carryOut (spares : StackSpares i stack) {fetch : AsyncFetch} (inside : fetch.Spares i)
    (s : Session) : SparesOn i s (Task.carryOut me stack s fetch) := by
  cases fetch with
  | finish outcome =>
      have noted : Spared i s (s.note outcome.notices) := Spared.of_eq rfl
      exact noted.sparesOn (sparesOn_conclude spares _ _)
  | clear j next => exact ⟨spared_clear i j s, inside _, spares⟩
  | peek j next => exact ⟨spared_peek i j s, inside _, spares⟩
  | copy j update next => exact ⟨spared_copy i j s update, inside _, spares⟩
  | get j inner next =>
      obtain ⟨other, within, behind⟩ := inside
      exact ⟨spared_request other (spared_run inner within), behind _, spares⟩
  | aget j inner next =>
      refine sparesOn_ask spares inside.1 ?_ j s
      rintro go ⟨⟩
      exact inside.2
  | await next => exact ⟨Spared.of_eq rfl, inside, spares⟩

theorem sparesOn_step {task : Task} (spares : Task.Spares i task) (s : Session) :
    SparesOn i s (Task.step me s task) := by
  cases task with
  | done result => exact ⟨Spared.of_eq rfl, trivial⟩
  | clearing j => exact ⟨spared_clear i j s, trivial⟩
  | requesting j fetch =>
      refine sparesOn_ask ?_ spares ?_ j s
      · simp [StackSpares]
      · simp
  | going fetch stack => exact sparesOn_carryOut spares.2 spares.1 s
  | paused next stack => exact ⟨Spared.of_eq rfl, spares.1 _, spares.2⟩
  | waiting j request fetch next stack =>
      obtain ⟨inside, behind, below⟩ := spares
      rw [Task.step]
      split
      · exact sparesOn_enter below inside behind j request s
      · exact ⟨Spared.of_eq rfl, inside, behind, below⟩

theorem sparesOn_cancel {task : Task} (spares : Task.Spares i task) (s : Session) :
    SparesOn i s (Task.cancel me s task) := by
  cases task with
  | done result => exact ⟨Spared.of_eq rfl, trivial⟩
  | clearing j => exact ⟨Spared.of_eq rfl, trivial⟩
  | requesting j fetch => exact ⟨Spared.of_eq rfl, trivial⟩
  | going fetch stack => exact ⟨Spared.of_eq rfl, spares⟩
  | paused next stack => exact ⟨Spared.of_eq rfl, spares.1 _, spares.2⟩
  | waiting j request fetch next stack =>
      obtain ⟨_, behind, below⟩ := spares
      have left : Spared i s (s.withdraw j me request) :=
        Spared.of_event rfl trivial
      exact left.sparesOn (sparesOn_resume below behind _ _)

/-! ### Rounds -/

/-- The tasks of a loop spare an object if what they are made for does. -/
theorem spares_task {job : Job} (spares : job.Spares i) : Task.Spares i job.task := by
  cases job with
  | clear j => trivial
  | request j fetch => exact spares
  | perform procedure =>
      refine ⟨?_, by simp [StackSpares]⟩
      intro waking
      cases waking with
      | resumed => exact spares
      | cancelled => trivial

theorem spared_update {loop : TaskLoop} (spares : ∀ task ∈ loop.tasks, Task.Spares i task) (me : Nat)
    {change : Session → Task → Task × Session}
    (sparesOn : ∀ task, Task.Spares i task → SparesOn i loop.session (change loop.session task)) :
    Spared i loop.session (loop.update me change).session ∧
      ∀ task ∈ (loop.update me change).tasks, Task.Spares i task := by
  unfold TaskLoop.update
  cases found : loop.tasks[me]? with
  | none => exact ⟨Spared.of_eq rfl, spares⟩
  | some task =>
      obtain ⟨spared, changed⟩ := sparesOn task (spares task (List.mem_of_getElem? found))
      refine ⟨spared, ?_⟩
      intro other member
      rcases List.mem_or_eq_of_mem_set member with there | rfl
      · exact spares other there
      · exact changed

theorem spared_follow (moves : List Move) {loop : TaskLoop}
    (spares : ∀ task ∈ loop.tasks, Task.Spares i task) :
    Spared i loop.session (loop.follow moves).session := by
  induction moves generalizing loop with
  | nil => exact Spared.of_eq rfl
  | cons move moves hypothesis =>
      have moved : Spared i loop.session (loop.move move).session ∧
          ∀ task ∈ (loop.move move).tasks, Task.Spares i task := by
        cases move with
        | go me => exact spared_update spares me fun _ known => sparesOn_step known _
        | cancel me => exact spared_update spares me fun _ known => sparesOn_cancel known _
      exact moved.1.trans (hypothesis moved.2)

/-- In a round of tasks that spare an object no direct fetch for its children is entered. -/
theorem spared_round {jobs : List Job} (spares : ∀ job ∈ jobs, job.Spares i) (moves : List Move)
    (s : Session) :
    Spared i (TaskLoop.start jobs s).session ((TaskLoop.start jobs s).follow moves).session := by
  apply spared_follow moves
  intro task member
  obtain ⟨job, inside, rfl⟩ := List.mem_map.mp member
  exact spares_task (spares job inside)

end

end Replay

end Syscat
