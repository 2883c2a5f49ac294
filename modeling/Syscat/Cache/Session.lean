/-
Module: Syscat.Cache.Session
Purpose: Caches for the children of catalog objects. A cache holds the children from the first successful
  fetch until it is cleared. Requests come directly or from tasks; each way has a lock and a mark for the
  fetch in progress, and both share the slot for the children and the generation, which counts the clears.
Main exports: ChildCache, CacheHolder, Session, Session.clear, Session.copy, Session.beginFetch,
  Session.finishFetch, Session.report
-/
import Syscat.Cache.History

namespace Syscat

/-- A lock that tasks wait for, first come, first served. -/
structure Turnstile where
  taken : Bool
  waiting : List Nat
deriving DecidableEq, Repr, Inhabited

/-- What a fetch in progress has to remember: the request that it serves, its own number, and the
generation of the cache in which it began. -/
structure Ticket where
  request : Nat
  fetch : Nat
  generation : Nat
deriving DecidableEq, Repr, Inhabited

structure ChildCache where
  stored : Option Stored
  /-- How often the cache has been cleared. -/
  generation : Nat
  /-- Whether a direct fetch is in progress. -/
  fetching : Bool
  /-- Whether the lock of direct fetches is held. -/
  locked : Bool
  /-- The task whose fetch is in progress. -/
  fetchingTask : Option Nat
  /-- The lock of the fetches of tasks. -/
  turnstile : Turnstile
  /-- What clearing the cache fails with, if it is out of order. -/
  broken : Option Signal
deriving Repr, Inhabited

namespace Turnstile

/-- A lock that nobody holds or waits for. -/
def free : Turnstile := ⟨false, []⟩

/-- A task may take the lock at once if nobody holds it and nobody waits for it. -/
def isFree (t : Turnstile) : Bool :=
  !t.taken && t.waiting.isEmpty

/-- A task that waits is let in when nobody holds the lock and nobody stands before it. -/
def letsIn (t : Turnstile) (me : Nat) : Bool :=
  !t.taken && t.waiting.head? == some me

def join (t : Turnstile) (me : Nat) : Turnstile :=
  { t with waiting := t.waiting ++ [me] }

def quit (t : Turnstile) (me : Nat) : Turnstile :=
  { t with waiting := t.waiting.erase me }

/-- The lock is taken by a task that may have waited for it. -/
def take (t : Turnstile) (me : Nat) : Turnstile :=
  { t.quit me with taken := true }

def leave (t : Turnstile) : Turnstile :=
  { t with taken := false }

end Turnstile

namespace ChildCache

def empty : ChildCache := ⟨none, 0, false, false, none, .free, none⟩

def isPopulated (c : ChildCache) : Bool := c.stored.isSome

/-- Drop the children. A fetch that is in progress will not be stored. -/
def clear (c : ChildCache) : ChildCache :=
  { c with stored := none, generation := c.generation + 1 }

/-- Mark that a fetch is in progress, under the lock of its way. -/
def occupy (c : ChildCache) : Way → ChildCache
  | .direct => { c with fetching := true, locked := true }
  | .task me => { c with fetchingTask := some me, turnstile := c.turnstile.take me }

/-- The fetch of a way is no longer in progress, and its lock is given back. -/
def release (c : ChildCache) : Way → ChildCache
  | .direct => { c with fetching := false, locked := false }
  | .task _ => { c with fetchingTask := none, turnstile := c.turnstile.leave }

/-- Whether the cache takes over what a fetch gave that began in a generation: only if the cache has not
been cleared since, and if the fetch has not failed. -/
def keeps (c : ChildCache) (generation : Nat) (outcome : Except Failure (List Child)) : Bool :=
  c.generation == generation && outcome.isOk

/-- Store what the fetch on a ticket gave, if it is to be kept. -/
def store (c : ChildCache) (t : Ticket) (outcome : Except Failure (List Child)) : ChildCache :=
  match outcome with
  | .ok children =>
      if c.generation = t.generation then { c with stored := some ⟨t.fetch, children⟩ } else c
  | .error _ => c

/-- Storing a result changes the children and nothing else. -/
theorem store_eq (c : ChildCache) (t : Ticket) (outcome : Except Failure (List Child)) :
    c.store t outcome = { c with stored := (c.store t outcome).stored } := by
  unfold store
  split
  · split <;> rfl
  · rfl

end ChildCache

/-- What a cache belongs to: a routine, or any other object, of which only the name matters. -/
inductive CacheHolder where
  | routine (r : Routine)
  | other (name : Value)
deriving Repr, Inhabited

namespace CacheHolder

def name : CacheHolder → Value
  | routine r => .text r.qualifiedName.val
  | other name => name

/-- An object without a name of its own goes by its literal form. An object that has none because of an
integer's length stands for itself, and cannot be named. -/
def ofValue (v : Value) : CacheHolder :=
  match v.literal? with
  | some literal => .other (.text literal)
  | none => .other v

/-- Whether the holder can be named in a text. It cannot if an integer in its name is too long. -/
def isNamed (holder : CacheHolder) : Bool :=
  holder.name.text?.isSome

/-- What a request for the children of a holder fails with that comes from inside a fetch for them. A
holder that cannot be named leaves only the failure to name it. -/
def refusal (holder : CacheHolder) : Failure :=
  if holder.isNamed then .reentered holder.name else .longInteger

theorem refusal_of_named {holder : CacheHolder} (named : holder.isNamed = true) :
    holder.refusal = .reentered holder.name := by
  rw [refusal, if_pos named]

theorem refusal_of_unnamed {holder : CacheHolder} (unnamed : holder.isNamed = false) :
    holder.refusal = .longInteger := by
  simp only [refusal, unnamed, Bool.false_eq_true, if_false]

/-- An object with nothing but a qualified name, which it goes by unless that is empty. -/
def ofQualifiedName (qualified : Value) : CacheHolder :=
  if qualified.truthy then .other qualified
  else .other (.text ("namespace(fully_qualified_name=" ++ (qualified.literal?).getD "" ++ ")"))

end CacheHolder

structure CacheObject where
  holder : CacheHolder
  cache : ChildCache
deriving Repr, Inhabited

/-- Objects with caches and what has happened to them so far. -/
structure Session where
  /-- The objects; a copy is added at the end. -/
  objects : List CacheObject
  /-- How many fetches have been entered. -/
  fetches : Nat
  notices : List Notice
  /-- The stamps of the results that have been reported, in the order of their first reports. -/
  reported : List Nat
  history : History
deriving Inhabited

namespace Session

def start (holders : List CacheHolder) : Session :=
  ⟨holders.map (⟨·, .empty⟩), 0, [], [], []⟩

/-- The session as a new step begins, with nothing counted and noted yet. -/
def beginStep (s : Session) : Session :=
  { s with fetches := 0, notices := [] }

def object (s : Session) (i : Nat) : CacheObject :=
  s.objects.getD i default

def updateCache (s : Session) (i : Nat) (change : ChildCache → ChildCache) : Session :=
  { s with objects := s.objects.modify i fun o => { o with cache := change o.cache } }

def note (s : Session) (notices : List Notice) : Session :=
  { s with notices := s.notices ++ notices }

/-- The place in the history of what happens next. -/
def now (s : Session) : Nat :=
  s.history.length

def record (s : Session) (e : Event) : Session :=
  { s with history := s.history ++ [e] }

@[simp] theorem history_updateCache (s : Session) (i : Nat) (change : ChildCache → ChildCache) :
    (s.updateCache i change).history = s.history := rfl

@[simp] theorem history_note (s : Session) (notices : List Notice) :
    (s.note notices).history = s.history := rfl

@[simp] theorem object_note (s : Session) (notices : List Notice) (i : Nat) :
    (s.note notices).object i = s.object i := rfl

@[simp] theorem history_record (s : Session) (e : Event) :
    (s.record e).history = s.history ++ [e] := rfl

@[simp] theorem objects_record (s : Session) (e : Event) : (s.record e).objects = s.objects := rfl

@[simp] theorem object_record (s : Session) (e : Event) (i : Nat) :
    (s.record e).object i = s.object i := rfl

@[simp] theorem length_objects_updateCache (s : Session) (i : Nat)
    (change : ChildCache → ChildCache) :
    (s.updateCache i change).objects.length = s.objects.length := by
  simp [updateCache]

/-- Changing the cache of an object changes nothing else. -/
theorem object_updateCache_of_ne (s : Session) {i j : Nat} (change : ChildCache → ChildCache)
    (other : j ≠ i) : (s.updateCache i change).object j = s.object j := by
  simp [object, updateCache, other.symm]

/-- The cache of an object that is there can be changed. -/
theorem cache_updateCache (s : Session) {i : Nat} (change : ChildCache → ChildCache)
    (present : i < s.objects.length) :
    ((s.updateCache i change).object i).cache = change (s.object i).cache := by
  simp [object, updateCache, present]

/-- No change of a cache changes the holder of an object. -/
theorem holder_updateCache (s : Session) (i j : Nat) (change : ChildCache → ChildCache) :
    ((s.updateCache i change).object j).holder = (s.object j).holder := by
  simp only [object, updateCache, List.getD_eq_getElem?_getD, List.getElem?_modify]
  cases s.objects[j]? with
  | none => rfl
  | some o => split <;> rfl

def populated (s : Session) : List Bool :=
  s.objects.map fun o => o.cache.isPopulated

def isPopulated (s : Session) (i : Nat) : Bool :=
  (s.object i).cache.isPopulated

/-- See whether an object has its children at hand. -/
def peek (s : Session) (i : Nat) : Bool × Session :=
  (s.isPopulated i, s.record (.peeked i (s.isPopulated i)))

/-- The failure to clear a cache that is out of order. A routine says that it could not be refreshed. -/
def clearFailure (holder : CacheHolder) (signal : Signal) : Failure :=
  match holder with
  | .routine r =>
      if signal.ordinary then (Failure.signalled signal).wrapped (.refresh r.qualifiedName.val)
      else .signalled signal
  | .other _ => .signalled signal

def clear (s : Session) (i : Nat) : Except Failure Unit × Session :=
  match (s.object i).cache.broken with
  | some signal => (.error (clearFailure (s.object i).holder signal), s)
  | none => (.ok (), (s.updateCache i .clear).record (.cleared i))

@[simp] theorem length_objects_clear (s : Session) (i : Nat) :
    (s.clear i).2.objects.length = s.objects.length := by
  unfold clear
  split
  · rfl
  · simp

/-- Put the cache of an object out of order: it becomes empty and can no longer be cleared. -/
def breakCache (s : Session) (i : Nat) (signal : Signal) : Session :=
  s.updateCache i fun _ => { ChildCache.empty with broken := some signal }

/-- A holder with some of its fields changed. Only a routine has fields. An update is meant to have the
values that its fields hold. Other values are left out: those that pass the checks count as what they
stand for, and with one that does not an update changes nothing. -/
def revisedHolder (holder : CacheHolder) (update : Fields) : CacheHolder :=
  match holder with
  | .routine r =>
      match Routine.revise (some r) update with
      | .ok revised => .routine revised
      | .error _ => .routine r
  | holder => holder

/-- Copy an object, with some of its fields changed. The copy has a cache of its own, which was never
used. The answer is the number of the copy. -/
def copy (s : Session) (i : Nat) (update : Fields) : Nat × Session :=
  (s.objects.length,
    { s with objects := s.objects ++ [⟨revisedHolder (s.object i).holder update, .empty⟩] })

/-! ### Fetches -/

/-- The answer to a direct request that needs no fetch. A request from inside a direct fetch for the same
children is refused. -/
def directAnswer? (s : Session) (i : Nat) : Option (Source × Except Failure Stored) :=
  let o := s.object i
  match o.cache.stored with
  | some stored => some (.atHand, .ok stored)
  | none =>
      if o.cache.fetching then some (.refused, .error o.holder.refusal)
      else if o.cache.locked then some (.refused, .error (.deadlocked o.holder.name))
      else none

/-- The answer to a task's request that needs no fetch and no waiting. A request of the task that is
fetching the same children is refused. -/
def taskAnswer? (s : Session) (i me : Nat) : Option (Source × Except Failure Stored) :=
  let o := s.object i
  match o.cache.stored with
  | some stored => some (.atHand, .ok stored)
  | none =>
      if o.cache.fetchingTask = some me then some (.refused, .error o.holder.refusal) else none

section
variable {s : Session} {i me : Nat}

theorem directAnswer?_of_stored {result : Stored} (stored : (s.object i).cache.stored = some result) :
    s.directAnswer? i = some (.atHand, .ok result) := by
  simp only [directAnswer?, stored]

theorem directAnswer?_of_fetching (empty : (s.object i).cache.stored = none)
    (fetching : (s.object i).cache.fetching = true) :
    s.directAnswer? i = some (.refused, .error (s.object i).holder.refusal) := by
  simp only [directAnswer?, empty, fetching, if_true]

/-- A direct request needs a fetch exactly if the cache is empty and neither locked nor marked. -/
theorem directAnswer?_eq_none_iff : s.directAnswer? i = none ↔
    (s.object i).cache.stored = none ∧ (s.object i).cache.locked = false ∧
      (s.object i).cache.fetching = false := by
  unfold directAnswer?
  cases stored : (s.object i).cache.stored with
  | some result => simp [stored]
  | none =>
      cases fetching : (s.object i).cache.fetching with
      | true => simp [stored, fetching]
      | false =>
          cases locked : (s.object i).cache.locked with
          | true => simp [stored, fetching, locked]
          | false => simp [stored, fetching, locked]

theorem taskAnswer?_of_stored {result : Stored} (stored : (s.object i).cache.stored = some result) :
    s.taskAnswer? i me = some (.atHand, .ok result) := by
  simp only [taskAnswer?, stored]

theorem taskAnswer?_of_fetching (empty : (s.object i).cache.stored = none)
    (fetching : (s.object i).cache.fetchingTask = some me) :
    s.taskAnswer? i me = some (.refused, .error (s.object i).holder.refusal) := by
  simp only [taskAnswer?, empty, fetching, if_true]

/-- A task has to wait or to fetch exactly if the cache is empty and not marked for it. -/
theorem taskAnswer?_eq_none_iff : s.taskAnswer? i me = none ↔
    (s.object i).cache.stored = none ∧ (s.object i).cache.fetchingTask ≠ some me := by
  unfold taskAnswer?
  cases stored : (s.object i).cache.stored with
  | some result => simp [stored]
  | none =>
      by_cases fetching : (s.object i).cache.fetchingTask = some me
      · simp [stored, fetching]
      · simp [stored, fetching]

end

/-- The ticket of a fetch that begins now. -/
def ticket (s : Session) (i request : Nat) : Ticket :=
  ⟨request, s.now, (s.object i).cache.generation⟩

/-- Enter a fetch for a request. -/
def beginFetch (s : Session) (i request : Nat) (way : Way) : Session :=
  ({ s with fetches := s.fetches + 1 }.updateCache i (·.occupy way)).record (.entered i request s.now way)

/-- What a failed fetch is reported as. Failures to fetch and requests to stop are passed on as they are;
any other failure is noted and becomes a failure to fetch the children of the holder. -/
def fetchFailure (holder : CacheHolder) (failure : Failure) : Failure × List Notice :=
  if failure.isFetchFailure || !failure.ordinary then (failure, [])
  else
    match failure.message?, holder.name.text? with
    | some message, some name => (.fetch holder.name failure, [.fetchFailed name message])
    | _, _ => (.longInteger, [])

/-- What a request gets from the fetch with a number that was made for it. The success is noted under the
name of the holder before the result is handed over, so a holder that cannot be named leaves only the
failure to name it. -/
def fetchAnswer (holder : CacheHolder) (fetch : Nat) (outcome : Except Failure (List Child)) :
    Except Failure Stored × List Notice :=
  match outcome with
  | .ok children => (if holder.isNamed then .ok ⟨fetch, children⟩ else .error .longInteger, [])
  | .error failure =>
      let (failure, notices) := fetchFailure holder failure
      (.error failure, notices)

/-- End a fetch, give its lock back and answer the request. What the fetch gave goes into the cache first,
unless that has been cleared in the meantime, and stays there whatever the answer is. -/
def finishFetch (s : Session) (i : Nat) (way : Way) (t : Ticket) (outcome : Except Failure (List Child)) :
    Except Failure Stored × Session :=
  let o := s.object i
  let (answer, notices) := fetchAnswer o.holder t.fetch outcome
  let kept := o.cache.keeps t.generation outcome
  (answer,
    ((s.note notices).updateCache i fun c => (c.store t outcome).release way).record
      (.answered i t.request (.fetched way t.fetch outcome kept) answer))

@[simp] theorem length_objects_beginFetch (s : Session) (i request : Nat) (way : Way) :
    (s.beginFetch i request way).objects.length = s.objects.length := by
  simp [beginFetch]

@[simp] theorem length_objects_finishFetch (s : Session) (i : Nat) (way : Way) (t : Ticket)
    (outcome : Except Failure (List Child)) :
    (s.finishFetch i way t outcome).2.objects.length = s.objects.length := by
  simp [finishFetch, note]

/-! ### Reports -/

/-- The number of a result among those that have been reported. An empty one has no number. -/
def report (s : Session) (result : Stored) : Option Nat × Session :=
  if result.children.isEmpty then (none, s)
  else
    match s.reported.idxOf? result.stamp with
    | some n => (some n, s)
    | none => (some s.reported.length, { s with reported := s.reported ++ [result.stamp] })

/-- A report changes the list of reported results and nothing else. -/
theorem report_eq (s : Session) (result : Stored) :
    (s.report result).2 = { s with reported := (s.report result).2.reported } := by
  unfold report
  split
  · rfl
  · split <;> rfl

@[simp] theorem objects_report (s : Session) (result : Stored) :
    (s.report result).2.objects = s.objects := by
  rw [report_eq]

@[simp] theorem history_report (s : Session) (result : Stored) :
    (s.report result).2.history = s.history := by
  rw [report_eq]

end Session

/-! ### Results of fetches -/

/-- The items of a value that a fetch returned: the characters of a text, the numbers of octets, the keys
of a table, and the items of a sequence. -/
def childrenOfValue : Value → Except Failure (List Child)
  | .text s => .ok (s.toList.map fun c => .value (.text (String.singleton c)))
  | .octets bytes => .ok (bytes.map fun b => .value (.integer b.toNat))
  | .buffer bytes => .ok (bytes.map fun b => .value (.integer b.toNat))
  | .list items => .ok (items.map .value)
  | .tuple items => .ok (items.map .value)
  | .table entries => .ok (entries.map fun e => .value e.1)
  | v => .error (.notIterable v)

/-- The items that a generator yields, if it does not fail behind them. -/
def childrenOfGenerator (items : List Value) (failure : Option Failure) : Except Failure (List Child) :=
  match failure with
  | none => .ok (items.map .value)
  | some failure => .error (failure.leaving "generator")

end Syscat
