/-
Module: Syscat.Cache.Task
Purpose: Requests for children from tasks that take turns. A task goes on by single actions. It gives its
  turn away where a fetch pauses and where it waits for a cache's lock; only there can it be cancelled.
Main exports: AsyncFetch, Task, Job, Task.step, Task.cancel, TaskLoop, Move, TaskLoop.follow,
  TaskLoop.run, Session.runTasks
-/
import Syscat.Cache.Fetch

namespace Syscat

inductive Waking where
  | resumed
  | cancelled
deriving DecidableEq, Repr, Inhabited

/-- The behaviour of a fetch that a task makes. Besides what a direct fetch does, it may request children
as the task does, and pause. -/
inductive AsyncFetch where
  | finish (outcome : Logged (List Child))
  | clear (object : Nat) (next : Except Failure Unit → AsyncFetch)
  | peek (object : Nat) (next : Bool → AsyncFetch)
  | copy (object : Nat) (update : Fields) (next : Nat → AsyncFetch)
  /-- Request children directly, with a fetch that runs to its end at once. -/
  | get (object : Nat) (inner : Fetch) (next : Except Failure Stored → AsyncFetch)
  /-- Request children as a task. -/
  | aget (object : Nat) (inner : AsyncFetch) (next : Except Failure Stored → AsyncFetch)
  /-- Give the turn away, and go on as the waking says. -/
  | await (next : Waking → AsyncFetch)

def Failure.cancelled : Failure :=
  .signalled (.raised (.interrupt "CancelledError") [])

namespace AsyncFetch

/-- Go on, or end if the task has been cancelled. -/
def unlessCancelled (next : AsyncFetch) : Waking → AsyncFetch
  | .resumed => next
  | .cancelled => .finish (.fail .cancelled)

/-- Give the turn away. Being cancelled there ends the fetch. -/
def pause (next : AsyncFetch) : AsyncFetch := .await next.unlessCancelled

def clearThen (object : Nat) (rest : AsyncFetch) : AsyncFetch :=
  .clear object fun answer =>
    match answer with
    | .ok _ => rest
    | .error failure => .finish (.fail failure)

/-- Go on after a request unless it failed. A tolerant fetch goes on after an ordinary failure, too. -/
def afterRequest (tolerant : Bool) (rest : AsyncFetch) : Except Failure Stored → AsyncFetch
  | .ok _ => rest
  | .error failure => if tolerant && failure.ordinary then rest else .finish (.fail failure)

/-- The end of a sequence that leaves a fetch of a task would be taken for the task's own end, so it
becomes a failure of another kind. -/
def guarded : AsyncFetch → AsyncFetch
  | finish outcome => finish (outcome.mapFailure (Failure.leaving "coroutine"))
  | clear i next => clear i fun answer => (next answer).guarded
  | peek i next => peek i fun answer => (next answer).guarded
  | copy i update next => copy i update fun number => (next number).guarded
  | get i inner next => get i inner fun answer => (next answer).guarded
  | aget i inner next => aget i inner fun answer => (next answer).guarded
  | await next => await fun waking => (next waking).guarded

end AsyncFetch

/-- The result of a task: what its request gave, with the number of the result, or what its clear gave. -/
inductive TaskResult where
  | children (answer : Except Failure (List Child × Option Nat))
  | cleared (answer : Except Failure Unit)

/-- How a task uses the answer to a request: a fetch goes on with it, or it is the task's result. -/
abbrev Continuation := Option (Except Failure Stored → AsyncFetch)

/-- A fetch that a task has entered and not ended. -/
structure Pending where
  object : Nat
  ticket : Ticket
  next : Continuation

/-- What a task still has to do. The fetches that it is in stand with the innermost one first. -/
inductive Task where
  | done (result : TaskResult)
  | clearing (object : Nat)
  | requesting (object : Nat) (fetch : AsyncFetch)
  | going (fetch : AsyncFetch) (stack : List Pending)
  | paused (next : Waking → AsyncFetch) (stack : List Pending)
  | waiting (object request : Nat) (fetch : AsyncFetch) (next : Continuation) (stack : List Pending)

/-- What a task is made for. -/
inductive Job where
  | clear (object : Nat)
  | request (object : Nat) (fetch : AsyncFetch)
  /-- Carry out a procedure, which does whatever a fetch may do. -/
  | perform (procedure : AsyncFetch)

/-- A task that has not begun. -/
def Job.task : Job → Task
  | clear i => .clearing i
  | request i fetch => .requesting i fetch
  | perform procedure => .paused procedure.unlessCancelled []

/-- A cache without the mark and the lock of tasks. Those of an earlier round mean nothing to a new
one. -/
def ChildCache.renew (c : ChildCache) : ChildCache :=
  { c with fetchingTask := none, turnstile := .free }

namespace Session

/-- Whether a task that waits for the lock of an object's cache is let in. -/
def letsIn (s : Session) (i me : Nat) : Bool :=
  (s.object i).cache.turnstile.letsIn me

def joinQueue (s : Session) (i me : Nat) : Session :=
  (s.updateCache i fun c => { c with turnstile := c.turnstile.join me }).record (.queued i)

/-- A task that has been let in finds the children at hand and leaves the lock to the next one. -/
def passThrough (s : Session) (i me request : Nat) (answer : Except Failure Stored) : Session :=
  (s.updateCache i fun c => { c with turnstile := c.turnstile.quit me }).record
    (.answered i request .atHand answer)

/-- A round of tasks begins: the marks and locks of tasks are new. -/
def beginRound (s : Session) : Session :=
  let objects := s.objects.map fun o => { o with cache := o.cache.renew }
  { s with objects := objects }.record .began

/-- A task gives up waiting for the lock of an object's cache. -/
def withdraw (s : Session) (i me request : Nat) : Session :=
  (s.updateCache i fun c => { c with turnstile := c.turnstile.quit me }).record (.withdrawn i request)

end Session

namespace Task

/-- Go on with the answer to a request. -/
def resume (answer : Except Failure Stored) (stack : List Pending) (s : Session) :
    Continuation → Task × Session
  | some next => (.going (next answer) stack, s)
  | none =>
      match answer with
      | .ok stored =>
          let (number, s) := s.report stored
          (.done (.children (.ok (stored.children, number))), s)
      | .error failure => (.done (.children (.error failure)), s)

/-- Having the lock, look again for the children, and fetch them if they are not at hand. -/
def enter (me i request : Nat) (fetch : AsyncFetch) (next : Continuation) (stack : List Pending)
    (s : Session) : Task × Session :=
  match (s.object i).cache.stored with
  | some stored => resume (.ok stored) stack (s.passThrough i me request (.ok stored)) next
  | none =>
      (.going fetch (⟨i, s.ticket i request, next⟩ :: stack), s.beginFetch i request (.task me))

/-- Request the children of an object. A request that cannot be answered at once takes the lock, or waits
for it. -/
def ask (me i : Nat) (fetch : AsyncFetch) (next : Continuation) (stack : List Pending) (s : Session) :
    Task × Session :=
  match s.taskAnswer? i me with
  | some (source, answer) => resume answer stack (s.record (.answered i s.now source answer)) next
  | none =>
      if (s.object i).cache.turnstile.isFree then enter me i s.now fetch next stack s
      else (.waiting i s.now fetch next stack, s.joinQueue i me)

/-- The innermost fetch ends, or the task if it is in none. -/
def conclude (me : Nat) (outcome : Except Failure (List Child)) (s : Session) :
    List Pending → Task × Session
  | [] => (.done (.children (outcome.map (·, none))), s)
  | p :: stack =>
      let (answer, s) := s.finishFetch p.object (.task me) p.ticket outcome
      resume answer stack s p.next

/-- Carry out the first action of a fetch. -/
def carryOut (me : Nat) (stack : List Pending) (s : Session) : AsyncFetch → Task × Session
  | .finish outcome => conclude me outcome.result (s.note outcome.notices) stack
  | .clear i next =>
      let (answer, s) := s.clear i
      (.going (next answer) stack, s)
  | .peek i next =>
      let (populated, s) := s.peek i
      (.going (next populated) stack, s)
  | .copy i update next =>
      let (number, s) := s.copy i update
      (.going (next number) stack, s)
  | .get i inner next =>
      let (answer, s) := s.get i inner
      (.going (next answer) stack, s)
  | .aget i inner next => ask me i inner (some next) stack s
  | .await next => (.paused next stack, s)

/-- Let a task with a number do one action. One that waits for a lock goes on only if it is let in. -/
def step (me : Nat) (s : Session) : Task → Task × Session
  | done result => (.done result, s)
  | clearing i =>
      let (answer, s) := s.clear i
      (.done (.cleared answer), s)
  | requesting i fetch => ask me i fetch none [] s
  | going fetch stack => carryOut me stack s fetch
  | paused next stack => (.going (next .resumed) stack, s)
  | waiting i request fetch next stack =>
      if s.letsIn i me then enter me i request fetch next stack s
      else (.waiting i request fetch next stack, s)

/-- Cancel a task where it paused or waits, or before it begins. It goes on later. -/
def cancel (me : Nat) (s : Session) : Task → Task × Session
  | clearing _ => (.done (.cleared (.error .cancelled)), s)
  | requesting _ _ => (.done (.children (.error .cancelled)), s)
  | paused next stack => (.going (next .cancelled) stack, s)
  | waiting i request _ next stack => resume (.error .cancelled) stack (s.withdraw i me request) next
  | task => (task, s)

def result? : Task → Option TaskResult
  | done result => some result
  | _ => none

end Task

structure TaskLoop where
  tasks : List Task
  session : Session

/-- What can happen next among tasks: one of them does an action, or is cancelled. -/
inductive Move where
  | go (me : Nat)
  | cancel (me : Nat)
deriving DecidableEq, Repr

namespace TaskLoop

/-- Tasks that begin a round. -/
def start (jobs : List Job) (s : Session) : TaskLoop :=
  ⟨jobs.map Job.task, s.beginRound⟩

def update (loop : TaskLoop) (me : Nat) (change : Session → Task → Task × Session) : TaskLoop :=
  match loop.tasks[me]? with
  | none => loop
  | some task =>
      let (task, s) := change loop.session task
      ⟨loop.tasks.set me task, s⟩

def move (loop : TaskLoop) : Move → TaskLoop
  | .go me => loop.update me (Task.step me)
  | .cancel me => loop.update me (Task.cancel me)

def follow (loop : TaskLoop) (moves : List Move) : TaskLoop :=
  moves.foldl move loop

/-! ### Taking turns -/

/-- The tasks that wait for a lock and are let in. -/
def admitted (loop : TaskLoop) : List Nat :=
  (List.range loop.tasks.length).filter fun me =>
    match loop.tasks[me]? with
    | some (.waiting i _ _ _ _) => loop.session.letsIn i me
    | _ => false

/-- The order of turns after an action of the first task in it. A task keeps its turn until it pauses,
waits or ends; tasks that are let in come last. -/
def turns (loop : TaskLoop) (me : Nat) (rest : List Nat) : List Nat :=
  let order :=
    match loop.tasks[me]? with
    | some (.paused _ _) => rest ++ [me]
    | some (.going _ _) => me :: rest
    | _ => rest
  order ++ loop.admitted.filter (!order.contains ·)

/-- Let tasks go on in turn for a number of actions, or until none is ready. -/
def run : Nat → List Nat → TaskLoop → TaskLoop
  | 0, _, loop => loop
  | _, [], loop => loop
  | actions + 1, me :: rest, loop =>
      let loop := loop.move (.go me)
      run actions (loop.turns me rest) loop

end TaskLoop

namespace Session

/-- Run tasks for at most a number of actions: their results, and the session that they leave. -/
def runTasks (s : Session) (jobs : List Job) (actions : Nat) : List (Option TaskResult) × Session :=
  let loop := (TaskLoop.start jobs s).run actions (List.range jobs.length)
  (loop.tasks.map Task.result?, loop.session)

end Session

end Syscat
