/-
Module: Syscat.Proofs.Cache.Loop
Purpose: Tasks that take turns keep a session faithful in every order of moves, and so do runs in which
  rounds of tasks alternate with what a single caller does.
Main exports: LoopSound, LoopSound.move, LoopSound.follow, LoopSound.start, Quiet.play,
  runTasks_eq_phase
-/
import Syscat.Proofs.Cache.Tasks

namespace Syscat.Replay

/-- All tasks of a loop agree with what has happened. -/
structure LoopSound (holders : List CacheHolder) (loop : TaskLoop) : Prop where
  quiet : Quiet holders loop.session
  tasks : ∀ me task, loop.tasks[me]? = some task → Task.Sound holders me loop.session.history task

section
variable {holders : List CacheHolder} {me : Nat} {s after : Session} {loop : TaskLoop}

/-! ### Moves -/

/-- A task that did nothing stays sound while another one goes on. -/
theorem Task.Sound.keep {other : Nat} (different : other ≠ me) (proceeds : Proceeds holders me s after)
    {task : Task} (sound : Task.Sound holders other s.history task) :
    Task.Sound holders other after.history task := by
  have stays {stack : List Pending} (stacked : Stacked holders other s.history stack) :
      Stacked holders other after.history stack :=
    ⟨fun p member known => proceeds.others other different p.object known p.ticket
      (stacked.opened p member known), stacked.distinct⟩
  cases task with
  | done result => trivial
  | clearing i => trivial
  | requesting i fetch => trivial
  | going fetch stack => exact stays sound
  | paused next stack => exact stays sound
  | waiting i request fetch next stack =>
      exact ⟨fun known => getElem?_of_longer proceeds.longer (sound.1 known), stays sound.2⟩

theorem LoopSound.update (sound : LoopSound holders loop) (me : Nat)
    {change : Session → Task → Task × Session}
    (goesOn : ∀ task, Task.Sound holders me loop.session.history task →
      GoesOn holders me loop.session (change loop.session task)) :
        LoopSound holders (loop.update me change) := by
  unfold TaskLoop.update
  cases found : loop.tasks[me]? with
  | none => exact sound
  | some task =>
      have went := goesOn task (sound.tasks me task found)
      refine ⟨went.proceeds.quiet, ?_⟩
      intro other task' there
      by_cases same : me = other
      · subst same
        rw [List.getElem?_set_self (List.getElem?_eq_some_iff.mp found).1] at there
        cases there
        exact went.sound
      · rw [List.getElem?_set_ne same] at there
        exact (sound.tasks other task' there).keep (Ne.symm same) went.proceeds

theorem LoopSound.move (sound : LoopSound holders loop) (move : Move) :
    LoopSound holders (loop.move move) := by
  cases move with
  | go me => exact sound.update me fun _ => goesOn_step sound.quiet
  | cancel me => exact sound.update me fun _ => goesOn_cancel sound.quiet

/-- In whatever order tasks go on and are cancelled, the loop stays sound. -/
theorem LoopSound.follow (sound : LoopSound holders loop) (moves : List Move) :
    LoopSound holders (loop.follow moves) := by
  induction moves generalizing loop with
  | nil => exact sound
  | cons move moves hypothesis => exact hypothesis (sound.move move)

/-! ### Rounds -/

/-- What the beginning of a round leaves of a cache is what the history says. -/
theorem Matches.renew {c : ChildCache} {i : Nat} {h : History} (matched : Matches c i h) :
    Matches c.renew i (h ++ [.began]) := by
  constructor
  · simp [ChildCache.renew, Event.contentsAfter, Event.clears, Event.kept?, matched.stored]
  · simp [ChildCache.renew, Event.clears, matched.generation]
  · simp [ChildCache.renew, Event.currentAfter, matched.fetching]
  · simp [ChildCache.renew, Event.currentAfter, matched.locked]
  · simp [ChildCache.renew, Event.currentAfter, Turnstile.free]
  · exact matched.working

theorem Quiet.beginRound (quiet : Quiet holders s) : Quiet holders s.beginRound := by
  obtain ⟨⟨present, holder, lawful, caches⟩, idle⟩ := quiet
  have renewed {i : Nat} (known : i < holders.length) :
      s.beginRound.object i = { s.object i with cache := (s.object i).cache.renew } := by
    have inside : i < s.objects.length := Nat.lt_of_lt_of_le known present
    simp [Session.beginRound, Session.object, inside]
  refine ⟨⟨?_, ?_, ?_, ?_⟩, ?_⟩
  · simpa [Session.beginRound] using present
  · intro i known
    rw [renewed known]
    exact holder i known
  · exact lawful.append fun _ => trivial
  · intro i known
    rw [renewed known]
    exact (caches i known).renew
  · intro i known
    simp [Session.beginRound, Event.currentAfter, idle i known]

/-- A loop is sound when its round begins. -/
theorem LoopSound.start (quiet : Quiet holders s) (jobs : List Job) :
    LoopSound holders (TaskLoop.start jobs s) := by
  refine ⟨quiet.beginRound, ?_⟩
  intro me task there
  obtain ⟨job, _, rfl⟩ := List.mem_map.mp (List.mem_of_getElem? there)
  cases job with
  | clear i => trivial
  | request i fetch => trivial
  | perform procedure => exact Stacked.nil _

/-! ### Runs -/

theorem Quiet.start (holders : List CacheHolder) : Quiet holders (Session.start holders) :=
  ⟨Faithful.start holders, fun _ _ => rfl⟩

theorem Quiet.phase (quiet : Quiet holders s) (phase : Phase) : Quiet holders (s.phase phase) := by
  cases phase with
  | steps steps =>
      obtain ⟨faithful, carried⟩ := Faithful.steps steps quiet.faithful
      refine ⟨faithful, ?_⟩
      intro i known
      exact (carried.running i known .direct).trans (quiet.idle i known)
  | round jobs moves => exact ((LoopSound.start quiet jobs).follow moves).quiet

/-- A session is faithful after every run, and no direct fetch is in progress. -/
theorem Quiet.play (quiet : Quiet holders s) (phases : List Phase) : Quiet holders (s.play phases) := by
  induction phases generalizing s with
  | nil => exact quiet
  | cons phase phases hypothesis => exact hypothesis (quiet.phase phase)

/-- Letting tasks go on in turn is one of the orders of moves. -/
theorem run_eq_follow (actions : Nat) (order : List Nat) (loop : TaskLoop) :
    ∃ moves, loop.run actions order = loop.follow moves := by
  induction actions generalizing order loop with
  | zero => exact ⟨[], by simp [TaskLoop.run, TaskLoop.follow]⟩
  | succ actions hypothesis =>
      cases order with
      | nil => exact ⟨[], by simp [TaskLoop.run, TaskLoop.follow]⟩
      | cons me rest =>
          obtain ⟨moves, same⟩ := hypothesis ((loop.move (.go me)).turns me rest) (loop.move (.go me))
          exact ⟨.go me :: moves, same⟩

/-- What tasks leave that are run in turn is what a round of some moves leaves. -/
theorem runTasks_eq_phase (s : Session) (jobs : List Job) (actions : Nat) :
    ∃ moves, (s.runTasks jobs actions).2 = s.phase (.round jobs moves) := by
  obtain ⟨moves, same⟩ := run_eq_follow actions (List.range jobs.length) (TaskLoop.start jobs s)
  refine ⟨moves, ?_⟩
  rw [Session.phase, ← same]
  rfl

end

end Syscat.Replay
