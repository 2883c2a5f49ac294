/-
Module: Syscat.Proofs.Cache.Sharing
Purpose: What tasks can rely on that share a cache in one round, in whatever order they go on, fail
  and are cancelled, and whenever the cache is cleared: fetches come one after the other, one of them
  at most is successful between two clears, and its result answers all requests behind it.
Main exports: Shares, shares_follow
-/
import Syscat.Proofs.Cache.Clearing
import Syscat.Proofs.Cache.Sparing

namespace Syscat.Replay

/-- The fetches that a task is in, the innermost one first. -/
def Task.stack : Task → List Pending
  | .done _ | .clearing _ | .requesting _ _ => []
  | .going _ stack | .paused _ stack | .waiting _ _ _ _ stack => stack

/-- The request that a task makes with its next action: the object, and what goes on with the answer. A
task that waits makes it once it is let in. -/
def Task.call? (s : Session) (me : Nat) : Task → Option (Nat × Continuation × List Pending)
  | .requesting i _ => some (i, none, [])
  | .going (.aget i _ next) stack => some (i, some next, stack)
  | .waiting i _ _ next stack => if s.letsIn i me then some (i, next, stack) else none
  | _ => none

/-- Tasks share the cache of an object since the place where their round began. -/
structure Shares (loop : TaskLoop) (start i : Nat) : Prop where
  /-- A fetch is entered only after the one before it has ended. -/
  inTurn : ∀ {f f' request request' : Nat} {way way' : Way}, start < f → f < f' →
    EnteredAt loop.session.history f i request way → EnteredAt loop.session.history f' i request' way' →
    ∃ e outcome kept answer, f < e ∧ e < f' ∧
      loop.session.history[e]? = some (.answered i request (.fetched way f outcome kept) answer)
  /-- One fetch at most is in progress among all tasks. -/
  alone : ∀ {me me' : Nat} {task task' : Task}, loop.tasks[me]? = some task →
    loop.tasks[me']? = some task' → ∀ p ∈ Task.stack task, ∀ p' ∈ Task.stack task',
    p.object = i → p'.object = i → me = me' ∧ p = p'
  /-- If two fetches were entered without a clear between, the first one has failed. -/
  oneSucceeds : ∀ {f f' request request' : Nat} {way way' : Way}, start < f → f < f' →
    EnteredAt loop.session.history f i request way → EnteredAt loop.session.history f' i request' way' →
    ClearFree loop.session.history i f f' → ∀ (e : Nat) children kept answer,
      loop.session.history[e]? ≠ some (.answered i request (.fetched way f (.ok children) kept) answer)
  /-- Each request that is answered while a result is held gets this result, and not from a fetch. -/
  answered : ∀ {p q request : Nat} {result : Stored} {source : Source} {answer : Except Failure Stored},
    start < p → HeldFrom loop.session.history i result p q →
    loop.session.history[q]? = some (.answered i request source answer) →
    source = .atHand ∧ answer = .ok result
  /-- While a result is held, no fetch is entered and no request has to wait. -/
  spared : ∀ {p q : Nat} {result : Stored}, start < p → HeldFrom loop.session.history i result p q →
    loop.session.history[q]? ≠ some (.queued i) ∧
      ∀ request way, ¬ EnteredAt loop.session.history q i request way
  /-- If a result is held now, a task that requests the children with its next action goes on with this
  result, whether it has waited or not, and its fetch is not entered. -/
  calls : ∀ {p me : Nat} {result : Stored} {task : Task} {next : Continuation} {stack : List Pending},
    start < p → HeldFrom loop.session.history i result p loop.session.now →
    loop.tasks[me]? = some task → Task.call? loop.session me task = some (i, next, stack) →
    ∃ after request, Task.step me loop.session task = Task.resume (.ok result) stack after next ∧
      after.fetches = loop.session.fetches ∧
      after.history = loop.session.history ++ [.answered i request .atHand (.ok result)]

/-- A round of tasks that make no direct requests for the children of an object. -/
structure RoundFrom (h : History) (start i : Nat) : Prop where
  began : h[start]? = some .began
  idle : current i .direct (h.take start) = none
  spared : ∀ p e, start < p → h[p]? = some e → Event.Spares i e

section
variable {holders : List CacheHolder} {h : History} {start i : Nat}

/-! ### Fetches of a round -/

/-- A fetch that is no longer in progress in a round has ended. -/
theorem Lawful.ended_between (lawful : Lawful holders h) (known : i < holders.length) {x y f : Nat}
    {lane : Lane} (ordered : x ≤ y) (inside : y ≤ h.length)
    (running : current i lane (h.take x) = some f) (gone : current i lane (h.take y) ≠ some f)
    (within : ∀ p, x ≤ p → p < y → h[p]? ≠ some .began) :
    ∃ e request way outcome kept answer, x ≤ e ∧ e < y ∧
      h[e]? = some (.answered i request (.fetched way f outcome kept) answer) := by
  induction ordered with
  | refl => exact absurd running gone
  | @step y ordered hypothesis =>
      by_cases still : current i lane (h.take y) = some f
      · -- The event at y is the one that the fetch did not outlast. Only its end can be that.
        obtain ⟨e, here⟩ := exists_event (Nat.lt_of_succ_le inside)
        rw [take_succ here, current_append, still] at gone
        cases e with
        | began => exact absurd here (within y ordered (Nat.lt_succ_self y))
        | entered j request fetch way =>
            by_cases same : j = i ∧ way.lane = lane
            · obtain ⟨rfl, rfl⟩ := same
              have free := (lawful.entered known here).2.free
              rw [still] at free
              cases free
            · simp [Event.currentAfter, same] at gone
        | answered j request source answer =>
            cases source with
            | atHand => simp [Event.currentAfter] at gone
            | refused => simp [Event.currentAfter] at gone
            | fetched way fetch outcome kept =>
                by_cases same : j = i ∧ way.lane = lane
                · obtain ⟨rfl, rfl⟩ := same
                  have ending := (lawful.ended known here).running
                  rw [still] at ending
                  cases ending
                  exact ⟨y, request, way, outcome, kept, answer, ordered, Nat.lt_succ_self y, here⟩
                · simp [Event.currentAfter, same] at gone
        | queued j => simp [Event.currentAfter] at gone
        | withdrawn j request => simp [Event.currentAfter] at gone
        | cleared j => simp [Event.currentAfter] at gone
        | peeked j populated => simp [Event.currentAfter] at gone
      · obtain ⟨e, request, way, outcome, kept, answer, after, before, here⟩ :=
          hypothesis (Nat.le_of_succ_le inside) still fun p after before =>
            within p after (Nat.lt_succ_of_lt before)
        exact ⟨e, request, way, outcome, kept, answer, after, Nat.lt_succ_of_lt before, here⟩

/-- In the round no direct fetch is in progress. -/
theorem RoundFrom.no_direct (round : RoundFrom h start i) {q : Nat} (after : start < q)
    (inside : q ≤ h.length) : current i .direct (h.take q) = none := by
  cases running : current i .direct (h.take q) with
  | none => rfl
  | some fetch =>
      obtain ⟨p, request, way, before, entered, lane, since⟩ := current_origin inside running
      cases way with
      | task me => cases lane
      | direct =>
          rcases Nat.lt_trichotomy p start with early | rfl | late
          · have idle := round.idle
            rw [since start early (Nat.le_of_lt after)] at idle
            cases idle
          · rw [round.began] at entered
            cases entered
          · exact absurd rfl (round.spared p _ late entered)

/-- In the round fetches are made by tasks. -/
theorem RoundFrom.byTask (round : RoundFrom h start i) {p request : Nat} {way : Way} (after : start < p)
    (entered : EnteredAt h p i request way) : way.lane = .tasks := by
  cases way with
  | task me => rfl
  | direct => exact absurd rfl (round.spared p _ after entered)

/-- While a result is held that was stored in the round, no fetch of a task is in progress: it would have
been so already when the fetch ended that gave the result. -/
theorem RoundFrom.no_task (round : RoundFrom h start i) (lawful : Lawful holders h)
    (known : i < holders.length) {p q : Nat} {result : Stored} (after : start < p)
    (held : HeldFrom h i result p q) (inside : q ≤ h.length) :
    current i .tasks (h.take q) = none := by
  cases running : current i .tasks (h.take q) with
  | none => rfl
  | some fetch =>
      obtain ⟨_, _, still⟩ := lawful.running_around known held inside running
      obtain ⟨_, keeper, _, _, _, ending, _, gone⟩ := lawful.stored known held.stored
      cases keeper with
      | task me =>
          rw [Way.lane] at gone
          rw [gone] at still
          cases still
      | direct =>
          rw [Way.lane, round.no_direct after (Nat.le_of_lt held.stored.lt_length)] at ending
          cases ending

/-- No fetch ends while a result is held that was stored in the round. -/
theorem RoundFrom.not_ended (round : RoundFrom h start i) (lawful : Lawful holders h)
    (known : i < holders.length) {p q : Nat} {result : Stored} (after : start < p)
    (held : HeldFrom h i result p q) {request fetch : Nat} {way : Way}
    {outcome : Except Failure (List Child)} {kept : Bool} {answer : Except Failure Stored} :
    h[q]? ≠ some (.answered i request (.fetched way fetch outcome kept) answer) := by
  intro here
  have inside := Nat.le_of_lt (lt_length here)
  have running := (lawful.ended known here).running
  cases way with
  | direct =>
      rw [Way.lane, round.no_direct (Nat.lt_trans after held.before) inside] at running
      cases running
  | task me =>
      rw [Way.lane, round.no_task lawful known after held inside] at running
      cases running

/-- What is held of what was stored in the round is what the cache contains. -/
theorem RoundFrom.contents_of_held (round : RoundFrom h start i) (lawful : Lawful holders h)
    (known : i < holders.length) {p q : Nat} {result : Stored} (after : start < p)
    (held : HeldFrom h i result p q) (inside : q ≤ h.length) :
    contents i (h.take q) = some result := by
  apply held.contents_eq inside
  intro x other behind early stored
  obtain ⟨_, _, _, here⟩ := stored
  exact round.not_ended lawful known after (held.earlier behind (Nat.le_of_lt early)) here

theorem RoundFrom.inTurn (round : RoundFrom h start i) (lawful : Lawful holders h)
    (known : i < holders.length) {f f' request request' : Nat} {way way' : Way} (after : start < f)
    (ordered : f < f') (entered : EnteredAt h f i request way)
    (entered' : EnteredAt h f' i request' way') : ∃ e outcome kept answer, f < e ∧ e < f' ∧
      h[e]? = some (.answered i request (.fetched way f outcome kept) answer) := by
  -- The lane is busy behind the first entry and free before the second one.
  have running := current_of_entered entered
  have free := (lawful.entered known entered').2.free
  rw [round.byTask (Nat.lt_trans after ordered) entered', ← round.byTask after entered] at free
  have gone : current i way.lane (h.take f') ≠ some f := by
    rw [free]
    simp
  have within (p : Nat) (later : f + 1 ≤ p) (_ : p < f') : h[p]? ≠ some .began :=
    fun began => round.spared p _ (Nat.lt_of_lt_of_le after (Nat.le_of_succ_le later)) began
  obtain ⟨e, request, way, outcome, kept, answer, later, before, here⟩ :=
    lawful.ended_between known ordered (Nat.le_of_lt (lt_length entered')) running gone within
  obtain ⟨rfl, rfl⟩ := entered.unique (lawful.entered_of_ended known here).1
  exact ⟨e, outcome, kept, answer, later, before, here⟩

theorem RoundFrom.oneSucceeds (round : RoundFrom h start i) (lawful : Lawful holders h)
    (known : i < holders.length) {f f' request request' : Nat} {way way' : Way} (after : start < f)
    (ordered : f < f') (entered : EnteredAt h f i request way)
    (entered' : EnteredAt h f' i request' way') (free : ClearFree h i f f') (e : Nat)
    (children : List Child) (kept : Bool) (answer : Except Failure Stored) :
    h[e]? ≠ some (.answered i request (.fetched way f (.ok children) kept) answer) := by
  intro here
  obtain ⟨e', _, _, _, later, before, there⟩ :=
    round.inTurn lawful known after ordered entered entered'
  obtain rfl := lawful.ended_once known here there
  have taken : kept = true :=
    (lawful.kept_iff known here).mpr ⟨rfl, free.mono (Nat.le_refl f) (Nat.le_of_lt before)⟩
  rw [taken] at here
  have held : HeldFrom h i ⟨f, children⟩ e f' :=
    ⟨⟨_, _, _, here⟩, before, free.mono (Nat.le_of_lt later) (Nat.le_refl f')⟩
  exact lawful.not_entered known held entered'

theorem RoundFrom.answered (round : RoundFrom h start i) (lawful : Lawful holders h)
    (known : i < holders.length) {p q request : Nat} {result : Stored} {source : Source}
    {answer : Except Failure Stored} (after : start < p) (held : HeldFrom h i result p q)
    (here : h[q]? = some (.answered i request source answer)) :
    source = .atHand ∧ answer = .ok result := by
  have contained := round.contents_of_held lawful known after held (Nat.le_of_lt (lt_length here))
  rcases lawful.answered_of_contents known contained here with found | ⟨way, fetch, outcome, kept, rfl⟩
  · exact found
  · exact absurd here (round.not_ended lawful known after held)

end

/-! ### Tasks of a round -/

section
variable {holders : List CacheHolder} {i : Nat} {loop : TaskLoop}

theorem Task.Sound.stacked {me : Nat} {h : History} {task : Task} (sound : Task.Sound holders me h task) :
    Stacked holders me h (Task.stack task) := by
  cases task with
  | done result => exact Stacked.nil h
  | clearing j => exact Stacked.nil h
  | requesting j fetch => exact Stacked.nil h
  | going fetch stack => exact sound
  | paused next stack => exact sound
  | waiting j request fetch next stack => exact sound.2

/-- A task is in one fetch at most for the children of an object. -/
theorem Stacked.eq_of_object {me : Nat} {h : History} {stack : List Pending}
    (stacked : Stacked holders me h stack) (known : i < holders.length) {p p' : Pending}
    (member : p ∈ stack) (member' : p' ∈ stack) (about : p.object = i) (about' : p'.object = i) :
    p = p' := by
  obtain ⟨x, inside, rfl⟩ := List.mem_iff_getElem.mp member
  obtain ⟨y, inside', rfl⟩ := List.mem_iff_getElem.mp member'
  have apart := List.pairwise_iff_getElem.mp stacked.distinct
  rcases Nat.lt_trichotomy x y with below | rfl | above
  · exact absurd (about.trans about'.symm) (apart x y inside inside' below (about ▸ known))
  · rfl
  · exact absurd (about'.trans about.symm) (apart y x inside' inside above (about' ▸ known))

theorem LoopSound.alone (sound : LoopSound holders loop) (known : i < holders.length) {me me' : Nat}
    {task task' : Task} (here : loop.tasks[me]? = some task) (here' : loop.tasks[me']? = some task')
    (p : Pending) (member : p ∈ Task.stack task) (p' : Pending) (member' : p' ∈ Task.stack task')
    (about : p.object = i) (about' : p'.object = i) : me = me' ∧ p = p' := by
  have stacked := (sound.tasks me task here).stacked
  have opened := stacked.opened p member (about ▸ known)
  have opened' := (sound.tasks me' task' here').stacked.opened p' member' (about' ▸ known)
  rw [about] at opened
  rw [about'] at opened'
  obtain rfl := Way.task.inj (opened.unique opened' rfl)
  rw [here] at here'
  cases here'
  exact ⟨rfl, stacked.eq_of_object known member member' about about'⟩

/-- A task that requests children which are at hand goes on with them. -/
theorem step_of_stored {s : Session} {me : Nat} {result : Stored}
    (stored : (s.object i).cache.stored = some result) {task : Task} {next : Continuation}
    {stack : List Pending} (call : Task.call? s me task = some (i, next, stack)) :
    ∃ after request, Task.step me s task = Task.resume (.ok result) stack after next ∧
      after.fetches = s.fetches ∧
      after.history = s.history ++ [.answered i request .atHand (.ok result)] := by
  have asks (fetch : AsyncFetch) (next : Continuation) (stack : List Pending) :
      Task.ask me i fetch next stack s =
        Task.resume (.ok result) stack (s.record (.answered i s.now .atHand (.ok result))) next := by
    simp only [Task.ask, Session.taskAnswer?_of_stored stored]
  cases task with
  | done result => cases call
  | clearing j => cases call
  | requesting j fetch =>
      cases call
      exact ⟨_, s.now, asks fetch none [], rfl, rfl⟩
  | going fetch stack =>
      cases fetch with
      | aget j inner next =>
          cases call
          exact ⟨_, s.now, asks inner (some next) stack, rfl, rfl⟩
      | finish outcome => cases call
      | clear j next => cases call
      | peek j next => cases call
      | copy j update next => cases call
      | get j inner next => cases call
      | await next => cases call
  | paused next stack => cases call
  | waiting j request fetch next stack =>
      rw [Task.call?] at call
      split at call
      · next letIn =>
          cases call
          refine ⟨s.passThrough i me request (.ok result), request, ?_, rfl, rfl⟩
          simp only [Task.step, letIn, if_true, Task.enter, stored]
      · cases call

theorem LoopSound.shares (sound : LoopSound holders loop) (known : i < holders.length) {start : Nat}
    (round : RoundFrom loop.session.history start i) : Shares loop start i := by
  have lawful := sound.quiet.faithful.lawful
  constructor
  case inTurn => exact round.inTurn lawful known
  case alone => exact sound.alone known
  case oneSucceeds => exact round.oneSucceeds lawful known
  case answered => exact round.answered lawful known
  case spared =>
    intro p q result _ held
    exact ⟨lawful.not_queued known held, fun _ _ => lawful.not_entered known held⟩
  case calls =>
    intro p me result task next stack after held _ call
    have contained := round.contents_of_held lawful known after held (Nat.le_refl _)
    have stored := (sound.quiet.faithful.caches i known).stored
    rw [Session.now, List.take_length] at contained
    exact step_of_stored (stored.trans contained) call

/-- In every round of tasks that make no direct requests for the children of an object, the tasks share
its cache, whatever order they go on in and whatever happened before. -/
theorem shares_follow (holders : List CacheHolder) (phases : List Phase) (jobs : List Job)
    (moves : List Move) (known : i < holders.length) (spares : ∀ job ∈ jobs, job.Spares i) :
    Shares ((TaskLoop.start jobs ((Session.start holders).play phases)).follow moves)
      ((Session.start holders).play phases).now i := by
  have quiet := (Quiet.start holders).play phases
  obtain ⟨rest, history, spared⟩ := spared_round spares moves ((Session.start holders).play phases)
  apply ((LoopSound.start quiet jobs).follow moves).shares known
  have whole :
      ((TaskLoop.start jobs ((Session.start holders).play phases)).follow moves).session.history =
        ((Session.start holders).play phases).history ++ (.began :: rest) := by
    rw [history]
    exact List.append_assoc _ [_] rest
  rw [whole]
  constructor
  · simp [Session.now]
  · rw [Session.now, List.take_left]
    exact quiet.idle i known
  · intro p e after here
    obtain ⟨k, rfl⟩ := Nat.exists_eq_add_of_lt after
    rw [Session.now, Nat.add_assoc, List.getElem?_append_right (Nat.le_add_right _ _),
      Nat.add_sub_cancel_left, List.getElem?_cons_succ] at here
    exact spared e (List.mem_of_getElem? here)

/-- Three tasks that request the same children. The fetch of the first one pauses. -/
def threeJobs : List Job :=
  let given (number : Int) := AsyncFetch.finish (.ofExcept (.ok [.value (.integer number)]))
  [.request 0 (.pause (given 1)), .request 0 (given 2), .request 0 (given 3)]

/-- The first task is cancelled where its fetch pauses, and the second one, which has waited, fetches. The
third one gets what that gave when its turn comes. -/
theorem shares_threeJobs :
    let loop := (TaskLoop.start threeJobs ((Session.start [.other (.text "a")]).play [])).follow
      [.go 0, .go 0, .go 1, .go 2, .cancel 0, .go 0, .go 1, .go 1]
    let result : Stored := ⟨5, [.value (.integer 2)]⟩
    HeldFrom loop.session.history 0 result 6 7 ∧ ∃ task after, loop.tasks[2]? = some task ∧
      Task.step 2 loop.session task = Task.resume (.ok result) [] after none ∧ after.fetches = 2 := by
  intro loop result
  have spares : ∀ job ∈ threeJobs, job.Spares 0 := by
    intro job member
    simp only [threeJobs, List.mem_cons, List.not_mem_nil, or_false] at member
    rcases member with rfl | rfl | rfl
    · intro waking
      cases waking <;> trivial
    · trivial
    · trivial
  have shared : Shares loop 0 0 := shares_follow _ [] threeJobs _ (by decide) spares
  have held : HeldFrom loop.session.history 0 result 6 7 := by
    refine ⟨⟨2, .task 1, _, rfl⟩, by decide, ?_⟩
    intro c after before
    omega
  have waiting : loop.tasks[2]? = some (.waiting 0 3
    (.finish (.ofExcept (.ok [.value (.integer 3)]))) none []) := rfl
  have letIn : Task.call? loop.session 2 (.waiting 0 3
    (.finish (.ofExcept (.ok [.value (.integer 3)]))) none []) = some (0, none, []) := rfl
  obtain ⟨after, _, went, fetches, _⟩ := shared.calls (by decide) held waiting letIn
  exact ⟨held, _, after, waiting, went, fetches⟩

end

end Syscat.Replay
