/-
Module: Syscat.Proofs.Cache.FailingTasks
Purpose: Fetches of tasks that fail. They are reported like direct ones, and the cache is left empty and
  free for the next task, unless a direct fetch for the same object came in between. The failure goes
  through all fetches that the task is in.
Main exports: handed, LeavesNoTraceAsync, leavesNoTrace_move, Forwards, unwinds_follow,
  failed_leavesNoTrace, not_forall_wrapped
-/
import Syscat.Proofs.Cache.Failing
import Syscat.Proofs.Cache.Loop

namespace Syscat.Replay

/-! ### The end of a task's fetch -/

/-- What a task goes on with when its request has failed. -/
def handed (failure : Failure) (stack : List Pending) : Continuation → Task
  | some next => .going (next (.error failure)) stack
  | none => .done (.children (.error failure))

theorem resume_error (failure : Failure) (stack : List Pending) (s : Session) (next : Continuation) :
    Task.resume (.error failure) stack s next = (handed failure stack next, s) := by
  cases next <;> rfl

/-- What comes of the action in which a task's fetch ends that has failed. `p` is that fetch. -/
structure LeavesNoTraceAsync (loop : TaskLoop) (me : Nat) (p : Pending) (stack : List Pending)
    (noted : List Notice) (failure : Failure) : Prop where
  /-- The failure is reported under the name of the object, and noted behind what the fetch noted. -/
  reported : ∃ reported warnings,
    (loop.move (.go me)).tasks[me]? = some (handed reported stack p.next) ∧
    Reported (loop.session.object p.object).holder failure reported warnings ∧
    (loop.move (.go me)).session.notices = loop.session.notices ++ noted ++ warnings
  /-- The mark and the lock of tasks are given back, and that is all. -/
  restored : (loop.move (.go me)).session.object p.object = { loop.session.object p.object with
    cache := { (loop.session.object p.object).cache with
      fetchingTask := none
      turnstile := (loop.session.object p.object).cache.turnstile.leave } }
  others : ∀ j, j ≠ p.object → (loop.move (.go me)).session.object j = loop.session.object j
  /-- If no direct fetch for the object has been entered meanwhile, the cache is empty and free in both
  ways, and has only seen clears since the fetch began. -/
  free : (∀ q request fetch, p.ticket.fetch < q →
      loop.session.history[q]? ≠ some (.entered p.object request fetch .direct)) →
    let c := ((loop.move (.go me)).session.object p.object).cache
    c.stored = none ∧ c.fetchingTask = none ∧ c.turnstile.taken = false ∧ c.fetching = false ∧
      c.locked = false ∧
      c.generation = p.ticket.generation +
        clears p.object (loop.session.history.drop p.ticket.fetch)
  /-- Then the next task calls its fetch again: the first one that waits, or one that asks if none
  waits. -/
  again : (∀ q request fetch, p.ticket.fetch < q →
      loop.session.history[q]? ≠ some (.entered p.object request fetch .direct)) →
    let after := (loop.move (.go me)).session
    let waiting := (after.object p.object).cache.turnstile.waiting
    ∀ (other : Nat) (fetch : AsyncFetch) (next : Continuation) (pending : List Pending),
      (waiting = [] → Task.ask other p.object fetch next pending after =
        (.going fetch (⟨p.object, after.ticket p.object after.now, next⟩ :: pending),
          after.beginFetch p.object after.now (.task other))) ∧
      ∀ request, waiting.head? = some other →
        Task.step other after (.waiting p.object request fetch next pending) =
          (.going fetch (⟨p.object, after.ticket p.object request, next⟩ :: pending),
            after.beginFetch p.object request (.task other))

section
variable {holders : List CacheHolder} {me : Nat} {loop : TaskLoop} {p : Pending} {stack : List Pending}
  {outcome : Logged (List Child)} {failure : Failure}

/-- A task whose fetch has failed is handed the report. -/
theorem move_failed
    (there : loop.tasks[me]? = some (.going (.finish outcome) (p :: stack)))
    (failed : outcome.result = .error failure) :
    let s := loop.session.note outcome.notices
    let report := Session.fetchFailure (loop.session.object p.object).holder failure
    loop.move (.go me) = ⟨loop.tasks.set me (handed report.1 stack p.next),
      (s.finishFetch p.object (.task me) p.ticket (.error failure)).2⟩ := by
  intro s report
  have step : Task.step me loop.session (.going (.finish outcome) (p :: stack)) =
      Task.resume (.error report.1) stack
        (s.finishFetch p.object (.task me) p.ticket (.error failure)).2 p.next := by
    rw [Task.step, Task.carryOut, Task.conclude, failed]
    rfl
  rw [TaskLoop.move, TaskLoop.update, there]
  simp only [step, resume_error]

/-- The action in which a fetch ends that has failed hands the task the report and notes it. -/
theorem move_reported
    (there : loop.tasks[me]? = some (.going (.finish outcome) (p :: stack)))
    (failed : outcome.result = .error failure) : ∃ reported warnings,
      (loop.move (.go me)).tasks[me]? = some (handed reported stack p.next) ∧
      Reported (loop.session.object p.object).holder failure reported warnings ∧
      (loop.move (.go me)).session.notices =
        loop.session.notices ++ outcome.notices ++ warnings := by
  rw [move_failed there failed]
  refine ⟨_, _, ?_, reported_fetchFailure _ failure, rfl⟩
  exact List.getElem?_set_self (List.getElem?_eq_some_iff.mp there).1

/-- A cache is empty at the end of a task's fetch that fails, unless a direct fetch was entered during
it. What the cache contained would have been stored while the fetch was in progress, so by a direct one
that was entered before, and no task's fetch is entered during a direct one. -/
theorem empty_of_running (lawful : Lawful holders loop.session.history)
    (known : p.object < holders.length)
    (opened : Ticket.OpenIn p.ticket p.object (.task me) loop.session.history)
    (apart : ∀ q request fetch, p.ticket.fetch < q →
      loop.session.history[q]? ≠ some (.entered p.object request fetch .direct)) :
    contents p.object loop.session.history = none := by
  cases contained : contents p.object loop.session.history with
  | none => rfl
  | some result =>
      have whole := List.take_length (l := loop.session.history)
      rw [← whole] at contained
      obtain ⟨q, held, _⟩ := contents_origin (Nat.le_refl _) contained
      have running := opened.running
      rw [← whole] at running
      obtain ⟨before, _, still⟩ := lawful.running_around known held (Nat.le_refl _) running
      obtain ⟨request, way, entered, early, _, keeping, _, ended⟩ := lawful.stored known held.stored
      cases way with
      | task other =>
          rw [Way.lane] at ended still
          rw [ended] at still
          cases still
      | direct =>
          have early_entry : result.stamp ≤ p.ticket.fetch := by
            apply Nat.le_of_not_lt
            exact fun late => apart result.stamp request result.stamp late entered
          have first : result.stamp < p.ticket.fetch := by
            rcases Nat.lt_or_eq_of_le early_entry with less | same
            · exact less
            · have entered' := opened.entered
              rw [← same, entered] at entered'
              cases entered'
          obtain ⟨_, _, since⟩ :=
            lawful.running_since known (Nat.le_of_lt held.stored.lt_length) keeping
          have busy := since p.ticket.fetch first (Nat.le_of_lt before)
          have idle := (lawful.entered known opened.entered).2.idle
          rw [Way.lane] at busy
          rw [busy] at idle
          cases idle

section
variable {s : Session} {i other : Nat} (empty : (s.object i).cache.stored = none)
  (untaken : (s.object i).cache.turnstile.taken = false)
include empty untaken

/-- A task that asks for the children of an empty cache calls its fetch if no task is at it or waits. -/
theorem ask_of_free (unmarked : (s.object i).cache.fetchingTask = none)
    (nobody : (s.object i).cache.turnstile.waiting = []) (fetch : AsyncFetch) (next : Continuation)
    (pending : List Pending) : Task.ask other i fetch next pending s =
      (.going fetch (⟨i, s.ticket i s.now, next⟩ :: pending), s.beginFetch i s.now (.task other)) := by
  have unanswered : s.taskAnswer? i other = none := by
    rw [Session.taskAnswer?_eq_none_iff, unmarked]
    exact ⟨empty, (Option.some_ne_none other).symm⟩
  have isFree : (s.object i).cache.turnstile.isFree = true := by
    simp [Turnstile.isFree, untaken, nobody]
  simp only [Task.ask, unanswered, isFree, if_true, Task.enter, empty]

/-- The first task that waits for an empty cache calls its fetch when the lock is free. -/
theorem step_of_first (first : (s.object i).cache.turnstile.waiting.head? = some other) (request : Nat)
    (fetch : AsyncFetch) (next : Continuation) (pending : List Pending) :
    Task.step other s (.waiting i request fetch next pending) =
      (.going fetch (⟨i, s.ticket i request, next⟩ :: pending),
        s.beginFetch i request (.task other)) := by
  have letIn : s.letsIn i other = true := by
    simp [Session.letsIn, Turnstile.letsIn, untaken, first]
  simp only [Task.step, letIn, if_true, Task.enter, empty]

end

theorem leavesNoTrace_move (sound : LoopSound holders loop) (known : p.object < holders.length)
    (there : loop.tasks[me]? = some (.going (.finish outcome) (p :: stack)))
    (failed : outcome.result = .error failure) :
    LeavesNoTraceAsync loop me p stack outcome.notices failure := by
  have opened : Ticket.OpenIn p.ticket p.object (.task me) loop.session.history :=
    (sound.tasks me _ there).opened p List.mem_cons_self known
  have inside := Nat.lt_of_lt_of_le known sound.quiet.faithful.present
  have matched := sound.quiet.faithful.caches p.object known
  have moved := move_failed there failed
  have object : (loop.move (.go me)).session.object p.object = { loop.session.object p.object with
      cache := (loop.session.object p.object).cache.release (.task me) } := by
    rw [moved]
    exact object_finishFetch_error (s := loop.session.note outcome.notices) inside _ _ _
  have free (apart : ∀ q request fetch, p.ticket.fetch < q →
      loop.session.history[q]? ≠ some (.entered p.object request fetch .direct)) :
      (loop.session.object p.object).cache.stored = none :=
    matched.stored.trans (empty_of_running sound.quiet.faithful.lawful known opened apart)
  constructor
  case reported => exact move_reported there failed
  case restored => exact object
  case others =>
    intro j other
    rw [moved]
    simp [Session.finishFetch, Session.object_updateCache_of_ne _ _ other]
  case free =>
    intro apart c
    have idle := sound.quiet.idle p.object known
    have cache : c = (loop.session.object p.object).cache.release (.task me) := by
      simp only [c, object]
    rw [cache]
    refine ⟨free apart, rfl, rfl, ?_, ?_, ?_⟩
    · exact matched.fetching.trans (by rw [idle]; rfl)
    · exact matched.locked.trans (by rw [idle]; rfl)
    · rw [opened.generation, clears_take_add_drop]
      exact matched.generation
  case again =>
    intro apart after waiting other fetch next pending
    have stored : (after.object p.object).cache.stored = none := by
      simp only [after, object]
      exact free apart
    have unmarked : (after.object p.object).cache.fetchingTask = none := by
      simp only [after, object]
      rfl
    have untaken : (after.object p.object).cache.turnstile.taken = false := by
      simp only [after, object]
      rfl
    constructor
    · exact fun nobody => ask_of_free stored untaken unmarked nobody fetch next pending
    · exact fun request first => step_of_first stored untaken first request fetch next pending

end

/-! ### Fetches inside fetches -/

/-- What goes on behind a request passes on whatever that fails with. -/
def Forwards (next : Continuation) : Prop :=
  ∀ go, next = some go → ∀ failure, go (.error failure) = .finish (.fail failure)

/-- What comes of a failure when the task goes on by itself, with no fetch that handles it. -/
structure UnwindsAsync (loop : TaskLoop) (me : Nat) (p : Pending) (stack : List Pending)
    (noted : List Notice) (failure : Failure) : Prop where
  /-- A failure to fetch or a request to stop is the result of the task as it is. -/
  passed : failure.isFetchFailure = true ∨ failure.ordinary = false →
    let after := loop.follow (List.replicate (stack.length + 2) (.go me))
    after.tasks[me]? = some (.done (.children (.error failure))) ∧
      after.session.notices = loop.session.notices ++ noted
  /-- Any other failure is one to fetch the children of the innermost object, noted once. -/
  wrapped : failure.isFetchFailure = false → failure.ordinary = true → ∀ {name message : String},
    let holder := (loop.session.object p.object).holder
    let after := loop.follow (List.replicate (stack.length + 2) (.go me))
    holder.name.text? = some name → failure.message? = some message →
      after.tasks[me]? = some (.done (.children (.error (.fetch holder.name failure)))) ∧
        after.session.notices =
          loop.session.notices ++ noted ++ [.fetchFailed name message]

section
variable {me : Nat} {loop : TaskLoop} {p : Pending} {stack : List Pending}
  {outcome : Logged (List Child)} {failure : Failure}

/-- A task that has ended does nothing more. -/
theorem follow_done {result : TaskResult} (count : Nat)
    (ended : loop.tasks[me]? = some (.done result)) :
    loop.follow (List.replicate count (.go me)) = loop := by
  induction count with
  | zero => rfl
  | succ count hypothesis =>
      have stays : loop.move (.go me) = loop := by
        have same : loop.tasks.set me (.done result) = loop.tasks := by
          obtain ⟨inside, here⟩ := List.getElem?_eq_some_iff.mp ended
          rw [← here, List.set_getElem_self]
        rw [TaskLoop.move, TaskLoop.update, ended]
        simp only [Task.step, same]
      rw [List.replicate_succ, TaskLoop.follow, List.foldl_cons, stays]
      exact hypothesis

/-- A failure that is passed on goes through all fetches that a task is in and becomes its result. The
induction is on these fetches; each action of the task ends the innermost one. -/
theorem follow_handed (passes : failure.isFetchFailure = true ∨ failure.ordinary = false)
    (stack : List Pending) : ∀ (loop : TaskLoop) (next : Continuation), Forwards next →
      (∀ p ∈ stack, Forwards p.next) → loop.tasks[me]? = some (handed failure stack next) →
      let after := loop.follow (List.replicate (stack.length + 1) (.go me))
      after.tasks[me]? = some (.done (.children (.error failure))) ∧
        after.session.notices = loop.session.notices := by
  induction stack with
  | nil =>
      intro loop next forwards _ there
      cases goesOn : next with
      | none =>
          rw [goesOn] at there
          rw [follow_done _ there]
          exact ⟨there, rfl⟩
      | some go =>
          rw [goesOn, handed, forwards go goesOn] at there
          have moved : loop.move (.go me) =
              ⟨loop.tasks.set me (.done (.children (.error failure))), loop.session.note []⟩ := by
            rw [TaskLoop.move, TaskLoop.update, there]
            rfl
          simp only [List.length_nil, Nat.zero_add, List.replicate_one, TaskLoop.follow,
            List.foldl_cons, List.foldl_nil, moved]
          refine ⟨List.getElem?_set_self (List.getElem?_eq_some_iff.mp there).1, ?_⟩
          exact List.append_nil _
  | cons p stack hypothesis =>
      intro loop next forwards others there
      cases goesOn : next with
      | none =>
          rw [goesOn] at there
          rw [follow_done _ there]
          exact ⟨there, rfl⟩
      | some go =>
          rw [goesOn, handed, forwards go goesOn] at there
          obtain ⟨reported, warnings, handedOn, report, noted⟩ := move_reported there rfl
          obtain ⟨rfl, rfl⟩ := report.passed passes
          obtain ⟨ended, quiet⟩ := hypothesis (loop.move (.go me)) p.next
            (others p List.mem_cons_self) (fun q inside => others q (List.mem_cons_of_mem p inside))
            handedOn
          have silent : (loop.move (.go me)).session.notices = loop.session.notices := by
            rw [noted]
            simp [Logged.fail]
          exact ⟨ended, quiet.trans silent⟩

theorem unwinds_follow (forwards : ∀ q ∈ p :: stack, Forwards q.next)
    (there : loop.tasks[me]? = some (.going (.finish outcome) (p :: stack)))
    (failed : outcome.result = .error failure) :
    UnwindsAsync loop me p stack outcome.notices failure := by
  obtain ⟨reported, warnings, handedOn, report, noted⟩ := move_reported there failed
  have onwards (passes : reported.isFetchFailure = true ∨ reported.ordinary = false) :=
    follow_handed passes stack (loop.move (.go me)) p.next (forwards p List.mem_cons_self)
      (fun q inside => forwards q (List.mem_cons_of_mem p inside)) handedOn
  constructor
  case passed =>
    intro passes
    obtain ⟨rfl, rfl⟩ := report.passed passes
    obtain ⟨ended, quiet⟩ := onwards passes
    exact ⟨ended, quiet.trans (noted.trans (List.append_nil _))⟩
  case wrapped =>
    intro fresh ordinary name message holder after named said
    obtain ⟨rfl, rfl⟩ := report.wrapped fresh ordinary named said
    obtain ⟨ended, quiet⟩ := onwards (.inl rfl)
    exact ⟨ended, quiet.trans noted⟩

end

/-! ### Both ways -/

/-- A fetch that fails leaves no trace, whatever it fails with and however requests are nested. The
request reports the failure once, under the name of its own object, and the requests around it pass that
on; the cache is as it was but for clears, so that the next request calls its fetch. For fetches of tasks
the cache is empty unless a direct fetch for the same object was entered meanwhile. -/
theorem failed_leavesNoTrace (holders : List CacheHolder) (failure : Failure) :
    (∀ (s : Session) (i : Nat) (fetch : Fetch), i < s.objects.length → s.directAnswer? i = none →
      (fetch.run (s.beginFetch i s.now .direct)).1 = .error failure →
        LeavesNoTrace s i fetch failure) ∧
      (∀ (bottom : Session) (k i : Nat) (fetch : Fetch) (s : Session) (path : List Nat),
        Chain failure bottom k i fetch s path → Unwinds s i fetch failure bottom k path) ∧
      (∀ (phases : List Phase) (jobs : List Job) (moves : List Move) (me : Nat) (p : Pending)
        (stack : List Pending) (outcome : Logged (List Child)),
        let loop := (TaskLoop.start jobs ((Session.start holders).play phases)).follow moves
        p.object < holders.length →
          loop.tasks[me]? = some (.going (.finish outcome) (p :: stack)) →
          outcome.result = .error failure →
            LeavesNoTraceAsync loop me p stack outcome.notices failure) ∧
      ∀ (loop : TaskLoop) (me : Nat) (p : Pending) (stack : List Pending)
        (outcome : Logged (List Child)), (∀ q ∈ p :: stack, Forwards q.next) →
        loop.tasks[me]? = some (.going (.finish outcome) (p :: stack)) →
        outcome.result = .error failure →
          UnwindsAsync loop me p stack outcome.notices failure := by
  refine ⟨?_, ?_, ?_, ?_⟩
  · exact fun s i fetch inside unanswered failed => leavesNoTrace_get inside unanswered failed
  · exact fun bottom k i fetch s path chain => unwinds_chain chain
  · intro phases jobs moves me p stack outcome loop known there failed
    have sound : LoopSound holders loop :=
      (LoopSound.start ((Quiet.start holders).play phases) jobs).follow moves
    exact leavesNoTrace_move sound known there failed
  · exact fun loop me p stack outcome forwards there failed =>
      unwinds_follow forwards there failed

/-- Two objects to fetch for. -/
def twoHolders : List CacheHolder := [.other (.text "a"), .other (.text "b")]

/-- A failure of a caller's code. -/
def plainFailure : Failure := .signalled (.raised (.plain "ValueError") [.text "bad"])

/-- A fetch that requests other children, whose fetch fails. -/
def failingFetch : Fetch := .getThen 1 (.finish (.fail plainFailure)) false (.finish (.fail .longInteger))

/-- A task whose fetch pauses and is then cancelled. -/
def cancelledLoop : TaskLoop :=
  (TaskLoop.start [.request 0 (.pause (.finish (.ofExcept (.ok []))))]
    ((Session.start twoHolders).play [])).follow [.go 0, .go 0, .cancel 0]

/-- A failure that comes from two fetches deep is reported once, for the inner object, and both caches are
free again; a task whose fetch is cancelled ends with that, and nothing is noted. -/
theorem failed_leavesNoTrace_twoHolders :
    let s := Session.start twoHolders
    let after := cancelledLoop.move (.go 0)
    (s.get 0 failingFetch).1 = .error (.fetch (.text "b") plainFailure) ∧
      (s.get 0 failingFetch).2.notices = [.fetchFailed "b" "bad"] ∧
      (∀ i ∈ [0, 1], (s.get 0 failingFetch).2.directAnswer? i = none) ∧
      after.tasks[0]? = some (.done (.children (.error .cancelled))) ∧ after.session.notices = [] ∧
      (after.session.object 0).cache.stored = none := by
  intro s after
  obtain ⟨_, chains, _, _⟩ := failed_leavesNoTrace twoHolders plainFailure
  obtain ⟨_, _, tasks, _⟩ := failed_leavesNoTrace twoHolders .cancelled
  have chain : Chain plainFailure _ 1 0 failingFetch s [0, 1] :=
    .next (by decide) rfl (.here fun _ => rfl) (.last (by decide) rfl rfl)
  obtain ⟨_, wrapped, restored⟩ := chains _ _ _ _ _ _ chain
  obtain ⟨answer, noted⟩ := wrapped rfl rfl rfl rfl
  have cancelled : LeavesNoTraceAsync cancelledLoop 0 ⟨0, ⟨1, 1, 0⟩, none⟩ [] [] .cancelled :=
    tasks [] _ _ 0 _ [] (.fail .cancelled) (by decide) rfl rfl
  obtain ⟨reported, warnings, ended, report, silent⟩ := cancelled.reported
  obtain ⟨rfl, rfl⟩ := report.passed (.inr rfl)
  refine ⟨answer, noted, restored, ended, silent, (cancelled.free ?_).1⟩
  intro q request fetch later entered
  have inside : q < cancelledLoop.session.history.length := lt_length entered
  have two : cancelledLoop.session.history.length = 2 := rfl
  have after_entry : 1 < q := later
  omega

/-- A failure does not become one to fetch the children of an object that cannot be named. -/
theorem not_forall_wrapped : ¬ ∀ (s : Session) (i : Nat) (fetch : Fetch) (failure : Failure),
    i < s.objects.length → s.directAnswer? i = none →
      (fetch.run (s.beginFetch i s.now .direct)).1 = .error failure →
      failure.isFetchFailure = false → failure.ordinary = true →
        (s.get i fetch).1 = .error (.fetch (s.object i).holder.name failure) := by
  intro wrapped
  -- the integer itself is kept out of what is computed below
  obtain ⟨holder, unnamed⟩ : ∃ holder : CacheHolder, holder.name.text? = none :=
    ⟨longHolder, text?_longHolder⟩
  let s := Session.start [holder]
  let fetch : Fetch := .finish (.fail plainFailure)
  have inside : 0 < s.objects.length := Nat.zero_lt_one
  have promised := wrapped s 0 fetch plainFailure inside rfl rfl rfl rfl
  have trace : LeavesNoTrace s 0 fetch plainFailure := leavesNoTrace_get inside rfl rfl
  obtain ⟨reported, warnings, answer, report, _⟩ := trace.reported
  obtain ⟨rfl, _⟩ := report.unspeakable rfl rfl (.inl unnamed)
  rw [answer] at promised
  cases promised

end Syscat.Replay
