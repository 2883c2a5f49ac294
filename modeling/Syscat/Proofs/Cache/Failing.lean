/-
Module: Syscat.Proofs.Cache.Failing
Purpose: Direct fetches that fail. The request reports the failure once, under the name of the object
  whose fetch it was, and the cache is as it was before the request, apart from clears on the way. The
  failure goes through the requests around it unchanged.
Main exports: Reported, OnlyCleared, LeavesNoTrace, leavesNoTrace_get, Descends, Chain, unwinds_chain
-/
import Syscat.Proofs.Cache.Fetching

namespace Syscat

/-- An object whose cache has been cleared a number of times more. -/
def CacheObject.withClears (o : CacheObject) (count : Nat) : CacheObject :=
  { o with cache := { o.cache with generation := o.cache.generation + count } }

namespace Replay

/-! ### Reports -/

/-- How a request reports the failure of the fetch that was made for it, and what is noted about it. -/
structure Reported (holder : CacheHolder) (failure reported : Failure) (warnings : List Notice) :
    Prop where
  /-- Failures to fetch and requests to stop are passed on as they are. -/
  passed : failure.isFetchFailure = true ∨ failure.ordinary = false →
    reported = failure ∧ warnings = []
  /-- Any other failure becomes one to fetch the children of the holder, which is noted once. -/
  wrapped : failure.isFetchFailure = false → failure.ordinary = true → ∀ {name message : String},
    holder.name.text? = some name → failure.message? = some message →
      reported = .fetch holder.name failure ∧ warnings = [.fetchFailed name message]
  /-- What cannot be put into words because of an integer's length fails for that. -/
  unspeakable : failure.isFetchFailure = false → failure.ordinary = true →
    holder.name.text? = none ∨ failure.message? = none → reported = .longInteger ∧ warnings = []

theorem reported_fetchFailure (holder : CacheHolder) (failure : Failure) :
    Reported holder failure (Session.fetchFailure holder failure).1
      (Session.fetchFailure holder failure).2 := by
  unfold Session.fetchFailure
  constructor
  case passed =>
    intro passes
    have passes : (failure.isFetchFailure || !failure.ordinary) = true := by
      rcases passes with fetch | stop
      · simp [fetch]
      · simp [stop]
    rw [if_pos passes]
    exact ⟨rfl, rfl⟩
  case wrapped =>
    intro fresh ordinary name message named said
    simp [fresh, ordinary, named, said]
  case unspeakable =>
    intro fresh ordinary unspeakable
    rcases unspeakable with unnamed | unsaid
    · cases said : failure.message? with
      | none => simp [fresh, ordinary]
      | some message => simp [fresh, ordinary, unnamed]
    · simp [fresh, ordinary, unsaid]

/-- What a request reports is a failure to fetch or a request to stop, unless it could not be put into
words. -/
theorem Reported.passes {holder : CacheHolder} {failure reported : Failure} {warnings : List Notice}
    (report : Reported holder failure reported warnings) {name message : String}
    (named : holder.name.text? = some name) (said : failure.message? = some message) :
    reported.isFetchFailure = true ∨ reported.ordinary = false := by
  by_cases passes : failure.isFetchFailure = true ∨ failure.ordinary = false
  · rw [(report.passed passes).1]
    exact passes
  · have fresh : failure.isFetchFailure = false := by
      simpa using fun fetch => passes (.inl fetch)
    have ordinary : failure.ordinary = true := by
      simpa using fun stop => passes (.inr stop)
    rw [(report.wrapped fresh ordinary named said).1]
    exact .inl rfl

/-! ### Caches in use -/

section
variable {s middle after : Session} {i j : Nat} {o : CacheObject} {count : Nat}

/-! What clears and the entry and end of a fetch do to an object. -/

@[simp] theorem holder_withClears : (o.withClears count).holder = o.holder := rfl

@[simp] theorem stored_withClears : (o.withClears count).cache.stored = o.cache.stored := rfl

@[simp] theorem fetching_withClears : (o.withClears count).cache.fetching = o.cache.fetching := rfl

@[simp] theorem withClears_zero (o : CacheObject) : o.withClears 0 = o := rfl

theorem withClears_withClears (o : CacheObject) (count more : Nat) :
    (o.withClears count).withClears more = o.withClears (count + more) := by
  simp only [CacheObject.withClears, Nat.add_assoc]

/-- Clearing an empty cache only counts. -/
theorem clear_of_empty (empty : o.cache.stored = none) :
    { o with cache := o.cache.clear } = o.withClears 1 := by
  obtain ⟨holder, cache⟩ := o
  simp only [CacheObject.withClears, ChildCache.clear, ← empty]

/-- A fetch that only saw clears gives back what it took. -/
theorem release_occupy (unlocked : o.cache.locked = false) (idle : o.cache.fetching = false) :
    let used := CacheObject.withClears { o with cache := o.cache.occupy .direct } count
    { used with cache := used.cache.release .direct } = o.withClears count := by
  obtain ⟨holder, stored, generation, fetching, locked, _, _, _⟩ := o
  cases unlocked
  cases idle
  rfl

/-- Between two sessions an object and its cache have stayed the same, but for clears. -/
structure OnlyCleared (i : Nat) (s after : Session) : Prop where
  present : s.objects.length ≤ after.objects.length
  object : ∃ rest, after.history = s.history ++ rest ∧
    after.object i = (s.object i).withClears (clears i rest)

theorem OnlyCleared.trans (first : OnlyCleared i s middle) (second : OnlyCleared i middle after) :
    OnlyCleared i s after := by
  obtain ⟨rest, history, object⟩ := first.object
  obtain ⟨more, history', object'⟩ := second.object
  refine ⟨Nat.le_trans first.present second.present, rest ++ more, ?_, ?_⟩
  · rw [history', history, List.append_assoc]
  · have sum : clears i (rest ++ more) = clears i rest + clears i more := List.countP_append
    rw [object', object, sum, withClears_withClears]

/-- An event that is no clear of the object's cache, and changes nothing of the object. -/
theorem OnlyCleared.of_event {e : Event} (history : after.history = s.history ++ [e])
    (clear : e.clears i = false) (present : s.objects.length ≤ after.objects.length)
    (same : after.object i = s.object i) : OnlyCleared i s after := by
  refine ⟨present, [e], history, ?_⟩
  have none : clears i [e] = 0 := by simp [clears, clear]
  rw [same, none, withClears_zero]

theorem OnlyCleared.of_same (history : after.history = s.history)
    (present : s.objects.length ≤ after.objects.length) (same : after.object i = s.object i) :
    OnlyCleared i s after := by
  refine ⟨present, [], by rw [history, List.append_nil], ?_⟩
  rw [same]
  rfl

/-- A direct fetch for the children of an object is in progress, and its cache is empty. -/
structure InUse (i : Nat) (s : Session) : Prop where
  present : i < s.objects.length
  empty : (s.object i).cache.stored = none
  fetching : (s.object i).cache.fetching = true

theorem OnlyCleared.inUse (cleared : OnlyCleared i s after) (inUse : InUse i s) : InUse i after := by
  obtain ⟨rest, _, object⟩ := cleared.object
  refine ⟨Nat.lt_of_lt_of_le inUse.present cleared.present, ?_, ?_⟩
  · rw [object, stored_withClears]
    exact inUse.empty
  · rw [object, fetching_withClears]
    exact inUse.fetching

theorem object_updateCache (inside : i < s.objects.length) (change : ChildCache → ChildCache) :
    (s.updateCache i change).object i =
      { s.object i with cache := change (s.object i).cache } := by
  simp [Session.updateCache, Session.object, inside]

theorem onlyCleared_clear (inUse : InUse i s) (j : Nat) : OnlyCleared i s (s.clear j).2 := by
  unfold Session.clear
  split
  · exact .of_same rfl (Nat.le_refl _) rfl
  · by_cases same : i = j
    · subst same
      refine ⟨by simp, [.cleared i], rfl, ?_⟩
      have once : clears i [.cleared i] = 1 := by simp [clears, Event.clears]
      rw [Session.object_record, object_updateCache inUse.present, once, clear_of_empty inUse.empty]
    · refine .of_event rfl ?_ (by simp) (s.object_updateCache_of_ne _ same)
      simpa [Event.clears] using Ne.symm same

theorem onlyCleared_finishFetch (apart : i ≠ j) (way : Way) (ticket : Ticket)
    (outcome : Except Failure (List Child)) :
    OnlyCleared i s (s.finishFetch j way ticket outcome).2 := by
  refine .of_event rfl rfl ?_ ?_
  · simp
  · simp [Session.finishFetch, Session.object_updateCache_of_ne _ _ apart]

theorem onlyCleared_beginFetch (apart : i ≠ j) (request : Nat) (way : Way) :
    OnlyCleared i s (s.beginFetch j request way) := by
  refine .of_event rfl rfl ?_ ?_
  · simp
  · exact Session.object_updateCache_of_ne { s with fetches := s.fetches + 1 } (·.occupy way) apart

/-- A direct fetch that runs while a cache is in use only clears it. Requests for its children are
refused, so that nothing is fetched into it. -/
theorem onlyCleared_run (fetch : Fetch) : ∀ s : Session, InUse i s → OnlyCleared i s (fetch.run s).2 := by
  induction fetch with
  | finish outcome => exact fun s _ => .of_same rfl (Nat.le_refl _) rfl
  | clear j next hypothesis =>
      intro s inUse
      have cleared := onlyCleared_clear inUse j
      exact cleared.trans (hypothesis _ _ (cleared.inUse inUse))
  | peek j next hypothesis =>
      intro s inUse
      have cleared : OnlyCleared i s (s.peek j).2 := .of_event rfl rfl (Nat.le_refl _) rfl
      exact cleared.trans (hypothesis _ _ (cleared.inUse inUse))
  | copy j update next hypothesis =>
      intro s inUse
      have cleared : OnlyCleared i s (s.copy j update).2 := by
        refine .of_same rfl (by simp [Session.copy]) ?_
        exact object_copy j update inUse.present
      exact cleared.trans (hypothesis _ _ (cleared.inUse inUse))
  | get j inner next innerHypothesis hypothesis =>
      intro s inUse
      have cleared : OnlyCleared i s (s.request j inner.run).2 := by
        unfold Session.request
        split
        · exact .of_event rfl rfl (Nat.le_refl _) rfl
        · next unanswered =>
            have apart : i ≠ j := by
              rintro rfl
              simp [Session.directAnswer?_of_fetching inUse.empty inUse.fetching] at unanswered
            have begun := onlyCleared_beginFetch (s := s) apart s.now .direct
            have done := innerHypothesis _ (begun.inUse inUse)
            exact (begun.trans done).trans (onlyCleared_finishFetch apart _ _ _)
      exact cleared.trans (hypothesis _ _ (cleared.inUse inUse))

/-! ### A request whose fetch fails -/

/-- A direct request whose fetch has failed leaves no trace. -/
structure LeavesNoTrace (s : Session) (i : Nat) (fetch : Fetch) (failure : Failure) : Prop where
  /-- The failure is reported under the name of the object, and noted behind what the fetch noted. -/
  reported : ∃ reported warnings, (s.get i fetch).1 = .error reported ∧
    Reported (s.object i).holder failure reported warnings ∧
    (s.get i fetch).2.notices = (fetch.run (s.beginFetch i s.now .direct)).2.notices ++ warnings
  /-- The object and its cache are as they were, but for clears. -/
  restored : OnlyCleared i s (s.get i fetch).2
  /-- The cache is empty, its lock is free, and no fetch is marked. -/
  free : ((s.get i fetch).2.object i).cache.stored = none ∧
    ((s.get i fetch).2.object i).cache.locked = false ∧
    ((s.get i fetch).2.object i).cache.fetching = false
  /-- All other objects are as the fetch left them. -/
  others : ∀ j, j ≠ i →
    (s.get i fetch).2.object j = (fetch.run (s.beginFetch i s.now .direct)).2.object j
  /-- The next request calls its fetch again. -/
  again : ∀ again : Fetch, let after := (s.get i fetch).2
    ∃ rest, (after.get i again).2.history =
      after.history ++ .entered i after.now after.now .direct :: rest

theorem get_of_unanswered (unanswered : s.directAnswer? i = none) (fetch : Fetch) :
    s.get i fetch =
      (fetch.run (s.beginFetch i s.now .direct)).2.finishFetch i .direct (s.ticket i s.now)
        (fetch.run (s.beginFetch i s.now .direct)).1 := by
  simp only [Session.get, Session.request, unanswered]

theorem object_beginFetch (inside : i < s.objects.length) (request : Nat) (way : Way) :
    (s.beginFetch i request way).object i =
      { s.object i with cache := (s.object i).cache.occupy way } :=
  object_updateCache (s := { s with fetches := s.fetches + 1 }) inside (·.occupy way)

theorem inUse_beginFetch (inside : i < s.objects.length) (unanswered : s.directAnswer? i = none)
    (request : Nat) : InUse i (s.beginFetch i request .direct) := by
  refine ⟨by simpa using inside, ?_, ?_⟩
  · rw [object_beginFetch inside]
    exact (Session.directAnswer?_eq_none_iff.mp unanswered).1
  · rw [object_beginFetch inside]
    rfl

/-- The end of a fetch that failed gives back the mark and the lock, and that is all. -/
theorem object_finishFetch_error (inside : i < s.objects.length) (way : Way) (ticket : Ticket)
    (failure : Failure) : (s.finishFetch i way ticket (.error failure)).2.object i =
      { s.object i with cache := (s.object i).cache.release way } :=
  object_updateCache (s := s.note _) inside fun c => c.release way

/-- A request that needs a fetch calls it: the entry of the fetch is what happens next. -/
theorem entered_get (inside : i < s.objects.length) (unanswered : s.directAnswer? i = none)
    (fetch : Fetch) : ∃ rest, (s.get i fetch).2.history =
      s.history ++ .entered i s.now s.now .direct :: rest := by
  have done := onlyCleared_run fetch _ (inUse_beginFetch inside unanswered s.now)
  obtain ⟨during, history, _⟩ := done.object
  obtain ⟨kept, ended⟩ := history_finishFetch (fetch.run (s.beginFetch i s.now .direct)).2 i .direct
    (s.ticket i s.now) (fetch.run (s.beginFetch i s.now .direct)).1
  rw [get_of_unanswered unanswered, ended, history, history_beginFetch]
  simp only [List.append_assoc, List.cons_append, List.nil_append]
  exact ⟨_, rfl⟩

theorem leavesNoTrace_get {fetch : Fetch} {failure : Failure} (inside : i < s.objects.length)
    (unanswered : s.directAnswer? i = none)
    (failed : (fetch.run (s.beginFetch i s.now .direct)).1 = .error failure) :
    LeavesNoTrace s i fetch failure := by
  obtain ⟨empty, unlocked, idle⟩ := Session.directAnswer?_eq_none_iff.mp unanswered
  have cleared := onlyCleared_run fetch _ (inUse_beginFetch inside unanswered s.now)
  have got := get_of_unanswered unanswered fetch
  rw [failed] at got
  have length : s.objects.length ≤ (fetch.run (s.beginFetch i s.now .direct)).2.objects.length := by
    simpa using cleared.present
  have present := Nat.lt_of_lt_of_le inside length
  obtain ⟨during, history, used⟩ := cleared.object
  rw [object_beginFetch inside] at used
  have holder : ((fetch.run (s.beginFetch i s.now .direct)).2.object i).holder =
      (s.object i).holder := by rw [used, holder_withClears]
  -- the mark and the lock that were taken are given back, and nothing is stored
  have object : (s.get i fetch).2.object i = (s.object i).withClears (clears i during) := by
    rw [got, object_finishFetch_error present, used]
    exact release_occupy unlocked idle
  have after : (s.get i fetch).2.directAnswer? i = none := by
    rw [Session.directAnswer?_eq_none_iff, object]
    exact ⟨empty, unlocked, idle⟩
  have longer : s.objects.length ≤ (s.get i fetch).2.objects.length := by
    rw [got]
    simpa using length
  constructor
  case reported =>
    refine ⟨_, _, ?_, reported_fetchFailure (s.object i).holder failure, ?_⟩
    · rw [got, ← holder]
      rfl
    · rw [got, ← holder]
      rfl
  case restored =>
    obtain ⟨kept, ended⟩ := history_finishFetch (fetch.run (s.beginFetch i s.now .direct)).2 i .direct
      (s.ticket i s.now) (.error failure)
    rw [← got, history, history_beginFetch, List.append_assoc, List.append_assoc] at ended
    refine ⟨longer, _, ended, ?_⟩
    rw [object]
    simp [clears, Event.clears]
  case free => exact Session.directAnswer?_eq_none_iff.mp after
  case others =>
    intro j apart
    rw [got]
    simp [Session.finishFetch, Session.object_updateCache_of_ne _ _ apart]
  case again => exact fun again => entered_get (Nat.lt_of_lt_of_le inside longer) after again

end

/-! ### Chains of requests -/

/-- A fetch that runs comes to request the children of an object, with a fetch of its own and in some
session, and passes on whatever that fails with. Before that it may use the caches. -/
inductive Descends (j : Nat) (inner : Fetch) (there : Session) : Fetch → Session → Prop where
  | here {next : Except Failure Stored → Fetch}
      (forwards : ∀ failure, next (.error failure) = .finish (.fail failure)) :
      Descends j inner there (.get j inner next) there
  | clear {i : Nat} {next : Except Failure Unit → Fetch} {s : Session}
      (later : Descends j inner there (next (s.clear i).1) (s.clear i).2) :
      Descends j inner there (.clear i next) s
  | peek {i : Nat} {next : Bool → Fetch} {s : Session}
      (later : Descends j inner there (next (s.peek i).1) (s.peek i).2) :
      Descends j inner there (.peek i next) s
  | copy {i : Nat} {update : Fields} {next : Nat → Fetch} {s : Session}
      (later : Descends j inner there (next (s.copy i update).1) (s.copy i update).2) :
      Descends j inner there (.copy i update next) s
  | get {i : Nat} {other : Fetch} {next : Except Failure Stored → Fetch} {s : Session}
      (later : Descends j inner there (next (s.get i other).1) (s.get i other).2) :
      Descends j inner there (.get i other next) s

/-- A fetch that passes on what a request inside it fails with ends with that, at once. -/
theorem Descends.run {j : Nat} {inner fetch : Fetch} {there s : Session} {failure : Failure}
    (descends : Descends j inner there fetch s) (failed : (there.get j inner).1 = .error failure) :
    fetch.run s = (.error failure, (there.get j inner).2) := by
  induction descends with
  | @here next forwards =>
      have step : (Fetch.get j inner next).run there =
          (next (there.get j inner).1).run (there.get j inner).2 := rfl
      rw [step, failed, forwards]
      simp [Fetch.run, Logged.fail, Session.note]
  | clear later hypothesis => exact hypothesis
  | peek later hypothesis => exact hypothesis
  | copy later hypothesis => exact hypothesis
  | get later hypothesis => exact hypothesis

/-- A chain of requests, each made by the fetch of the one before and each for a cache that needs a fetch.
The fetch of the last one, for the object `k`, fails in the session `bottom`. -/
inductive Chain (failure : Failure) (bottom : Session) (k : Nat) :
    Nat → Fetch → Session → List Nat → Prop where
  | last {fetch : Fetch} {s : Session} (inside : k < s.objects.length)
      (unanswered : s.directAnswer? k = none)
      (failed : fetch.run (s.beginFetch k s.now .direct) = (.error failure, bottom)) :
      Chain failure bottom k k fetch s [k]
  | next {i j : Nat} {fetch inner : Fetch} {s there : Session} {path : List Nat}
      (inside : i < s.objects.length) (unanswered : s.directAnswer? i = none)
      (descends : Descends j inner there fetch (s.beginFetch i s.now .direct))
      (below : Chain failure bottom k j inner there path) :
      Chain failure bottom k i fetch s (i :: path)

section
variable {failure : Failure} {bottom s : Session} {i k : Nat} {fetch : Fetch} {path : List Nat}

/-- In a chain every request fails. If the last one reports a failure that is passed on, so does the
first one, and nothing more is noted. -/
theorem Chain.get (chain : Chain failure bottom k i fetch s path) :
    ∃ reported warnings last, Reported (bottom.object k).holder failure reported warnings ∧
      (s.get i fetch).1 = .error last ∧
      (reported.isFetchFailure = true ∨ reported.ordinary = false →
        last = reported ∧ (s.get i fetch).2.notices = bottom.notices ++ warnings) := by
  induction chain with
  | @last fetch s inside unanswered failed =>
      refine ⟨_, _, _, reported_fetchFailure (bottom.object k).holder failure, ?_, fun _ => ⟨rfl, ?_⟩⟩
      · rw [get_of_unanswered unanswered, failed]
        rfl
      · rw [get_of_unanswered unanswered, failed]
        rfl
  | @next i j fetch inner s there path inside unanswered descends below hypothesis =>
      obtain ⟨reported, warnings, last, report, failed, passed⟩ := hypothesis
      have ended := descends.run failed
      have trace := leavesNoTrace_get inside unanswered (congrArg Prod.fst ended)
      obtain ⟨outer, more, answer, wrapped, notices⟩ := trace.reported
      refine ⟨reported, warnings, outer, report, answer, fun passes => ?_⟩
      obtain ⟨rfl, noted⟩ := passed passes
      obtain ⟨rfl, rfl⟩ := wrapped.passed passes
      refine ⟨rfl, ?_⟩
      rw [notices, ended, List.append_nil]
      exact noted

/-- After a chain of requests that fail, each of them could be made again and would call its fetch. -/
theorem Chain.restored (chain : Chain failure bottom k i fetch s path) :
    ∀ j ∈ path, (s.get i fetch).2.directAnswer? j = none := by
  induction chain with
  | @last fetch s inside unanswered failed =>
      intro j there
      rw [List.mem_singleton.mp there]
      have trace := leavesNoTrace_get inside unanswered (congrArg Prod.fst failed)
      exact Session.directAnswer?_eq_none_iff.mpr trace.free
  | @next i j fetch inner s there path inside unanswered descends below hypothesis =>
      obtain ⟨_, _, last, _, failed, _⟩ := below.get
      have ended := descends.run failed
      have trace := leavesNoTrace_get inside unanswered (congrArg Prod.fst ended)
      intro m onPath
      by_cases own : m = i
      · rw [own]
        exact Session.directAnswer?_eq_none_iff.mpr trace.free
      · -- the request around it leaves the caches further inside as they are
        have further : m ∈ path := (List.mem_cons.mp onPath).resolve_left own
        have answer := hypothesis m further
        have same : (s.get i fetch).2.object m = (there.get j inner).2.object m := by
          rw [trace.others m own, ended]
        rw [Session.directAnswer?_eq_none_iff] at answer ⊢
        rw [same]
        exact answer

/-- What a chain of requests comes to when the fetch of the last one fails. -/
structure Unwinds (s : Session) (i : Nat) (fetch : Fetch) (failure : Failure) (bottom : Session) (k : Nat)
    (path : List Nat) : Prop where
  /-- A failure to fetch or a request to stop comes out as it is. -/
  passed : failure.isFetchFailure = true ∨ failure.ordinary = false →
    (s.get i fetch).1 = .error failure ∧ (s.get i fetch).2.notices = bottom.notices
  /-- Any other failure comes out as one to fetch the children of the last object, noted once. -/
  wrapped : failure.isFetchFailure = false → failure.ordinary = true → ∀ {name message : String},
    (bottom.object k).holder.name.text? = some name → failure.message? = some message →
      (s.get i fetch).1 = .error (.fetch (bottom.object k).holder.name failure) ∧
        (s.get i fetch).2.notices = bottom.notices ++ [.fetchFailed name message]
  /-- Each request on the way could be made again and would call its fetch. -/
  restored : ∀ j ∈ path, (s.get i fetch).2.directAnswer? j = none

theorem unwinds_chain (chain : Chain failure bottom k i fetch s path) :
    Unwinds s i fetch failure bottom k path := by
  obtain ⟨reported, warnings, last, report, answer, passed⟩ := chain.get
  refine ⟨fun passes => ?_, fun fresh ordinary name message named said => ?_, chain.restored⟩
  · obtain ⟨rfl, rfl⟩ := report.passed passes
    obtain ⟨rfl, notices⟩ := passed passes
    exact ⟨answer, by rw [notices, List.append_nil]⟩
  · have passes := report.passes named said
    obtain ⟨rfl, rfl⟩ := report.wrapped fresh ordinary named said
    obtain ⟨rfl, notices⟩ := passed passes
    exact ⟨answer, notices⟩

end

end Replay

end Syscat
