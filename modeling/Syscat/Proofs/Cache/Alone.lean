/-
Module: Syscat.Proofs.Cache.Alone
Purpose: Objects do not meddle with each other. What a run does to one object, also from inside
  fetches for others, can be done to that object alone, as if there were no others and it had been
  there from the beginning. It then gives the same answers and makes the same fetches.
Main exports: Fetch.doing, Fetch.stepsFor, Session.stepsFor, History.alone, Session.Grows, Mirrors,
  mirrors_run, copies_independent
-/
import Syscat.Proofs.Cache.Copying
import Syscat.Proofs.Cache.Failing
import Syscat.Proofs.Cache.Marks

namespace Syscat

/-! ### The events about one object -/

def Event.isAbout (i : Nat) (e : Event) : Bool :=
  e.object? == some i

/-- How many events before a place of a history are about an object. -/
def History.rank (i : Nat) (h : History) (p : Nat) : Nat :=
  (h.take p).countP (Event.isAbout i)

/-- Events about an object have different numbers among themselves. -/
theorem History.rank_lt {h : History} {i p q : Nat} {e : Event} (here : h[p]? = some e)
    (about : e.isAbout i = true) (later : p < q) : h.rank i p < h.rank i q := by
  have next : h.rank i (p + 1) = h.rank i p + 1 := by
    rw [History.rank, Replay.take_succ here, List.countP_append, List.countP_singleton, about]
    rfl
  have shorter : (h.take (p + 1)).Sublist (h.take q) := (List.take_prefix_take_left later).sublist
  have grown : h.rank i (p + 1) ≤ h.rank i q := shorter.countP_le
  rw [next] at grown
  exact grown

def Stored.renumber (f : Nat → Nat) (result : Stored) : Stored :=
  { result with stamp := f result.stamp }

def Ticket.renumber (f : Nat → Nat) (t : Ticket) : Ticket :=
  ⟨f t.request, f t.fetch, t.generation⟩

def Source.renumber (f : Nat → Nat) : Source → Source
  | fetched way fetch outcome kept => fetched way (f fetch) outcome kept
  | source => source

/-- An event as one about the first object of a session, with other numbers for requests and fetches. -/
def Event.renumber (f : Nat → Nat) : Event → Event
  | began => began
  | queued _ => queued 0
  | entered _ request fetch way => entered 0 (f request) (f fetch) way
  | answered _ request source answer =>
      answered 0 (f request) (source.renumber f) (answer.map (·.renumber f))
  | withdrawn _ request => withdrawn 0 (f request)
  | cleared _ => cleared 0
  | peeked _ populated => peeked 0 populated

/-- What happens to an object, told as if nothing else had happened. -/
def History.alone (i : Nat) (h : History) : History :=
  (h.filter (Event.isAbout i)).map (Event.renumber (h.rank i))

namespace ChildCache

def renumber (f : Nat → Nat) (c : ChildCache) : ChildCache :=
  { c with stored := c.stored.map (·.renumber f) }

section
variable (f : Nat → Nat) (c : ChildCache)

@[simp] theorem isPopulated_renumber : (c.renumber f).isPopulated = c.isPopulated := by
  simp [renumber, isPopulated]

theorem renumber_clear : c.clear.renumber f = (c.renumber f).clear := rfl

theorem renumber_occupy (way : Way) : (c.occupy way).renumber f = (c.renumber f).occupy way := by
  cases way <;> rfl

theorem renumber_release (way : Way) : (c.release way).renumber f = (c.renumber f).release way := by
  cases way <;> rfl

theorem renumber_store (t : Ticket) (outcome : Except Failure (List Child)) :
    (c.store t outcome).renumber f = (c.renumber f).store (t.renumber f) outcome := by
  cases outcome with
  | error failure => rfl
  | ok children =>
      by_cases same : c.generation = t.generation
      · simp [store, renumber, Stored.renumber, Ticket.renumber, same]
      · simp [store, renumber, Ticket.renumber, same]

end

end ChildCache

theorem fetchAnswer_renumber (f : Nat → Nat) (holder : CacheHolder) (fetch : Nat)
    (outcome : Except Failure (List Child)) :
    (Session.fetchAnswer holder (f fetch) outcome).1 =
      (Session.fetchAnswer holder fetch outcome).1.map (·.renumber f) := by
  cases outcome with
  | error failure => rfl
  | ok children =>
      simp only [Session.fetchAnswer]
      split <;> rfl

/-! ### The steps for one object -/

/-- A fetch that takes some steps, whatever comes of them, and ends with an outcome. -/
def Fetch.doing (outcome : Except Failure (List Child)) : List Step → Fetch
  | [] => .finish (.ofExcept outcome)
  | .get i fetch :: steps => .get i fetch fun _ => doing outcome steps
  | .clear i :: steps => .clear i fun _ => doing outcome steps
  | .peek i :: steps => .peek i fun _ => doing outcome steps
  | .copy i update :: steps => .copy i update fun _ => doing outcome steps

theorem run_doing (outcome : Except Failure (List Child)) (steps : List Step) :
    ∀ s : Session, (Fetch.doing outcome steps).run s = (outcome, s.steps steps) := by
  induction steps with
  | nil =>
      intro s
      simp [Fetch.doing, Fetch.run, Logged.ofExcept, Session.note, Session.steps]
  | cons step steps ih => cases step <;> exact fun s => ih _

theorem Session.steps_append (s : Session) (first second : List Step) :
    s.steps (first ++ second) = (s.steps first).steps second :=
  List.foldl_append

/-- A step if it is for the object, otherwise none. -/
def addressed (i j : Nat) (step : Step) : List Step :=
  if j = i then [step] else []

/-- What is for the object in a request for an object's children. A fetch that is made for the request
takes the steps that are for the object within it. One that answers at once makes no fetch, so the one it
comes with does not matter. -/
def Session.requestFor (s : Session) (i : Nat) (idle : Fetch) (j : Nat)
    (outcome : Except Failure (List Child)) (within : List Step) : List Step :=
  match s.directAnswer? j with
  | some _ => addressed i j (.get 0 idle)
  | none => if j = i then [.get 0 (.doing outcome within)] else within

/-- The steps for an object that a fetch takes, as steps for the only object of a session. -/
def Fetch.stepsFor : Fetch → Nat → Fetch → Session → List Step
  | finish _, _, _, _ => []
  | clear j next, i, idle, s =>
      addressed i j (.clear 0) ++ (next (s.clear j).1).stepsFor i idle (s.clear j).2
  | peek j next, i, idle, s =>
      addressed i j (.peek 0) ++ (next (s.peek j).1).stepsFor i idle (s.peek j).2
  | copy j update next, i, idle, s =>
      (next (s.copy j update).1).stepsFor i idle (s.copy j update).2
  | get j inner next, i, idle, s =>
      let entered := s.beginFetch j s.now .direct
      s.requestFor i idle j (inner.run entered).1 (inner.stepsFor i idle entered) ++
        (next (s.request j inner.run).1).stepsFor i idle (s.request j inner.run).2

/-- Whatever a fetch does is done to objects that are there. -/
def Fetch.Proper : Fetch → Session → Prop
  | finish _, _ => True
  | clear j next, s => j < s.objects.length ∧ (next (s.clear j).1).Proper (s.clear j).2
  | peek j next, s => j < s.objects.length ∧ (next (s.peek j).1).Proper (s.peek j).2
  | copy j update next, s =>
      j < s.objects.length ∧ (next (s.copy j update).1).Proper (s.copy j update).2
  | get j inner next, s =>
      j < s.objects.length ∧
        (s.directAnswer? j = none → inner.Proper (s.beginFetch j s.now .direct)) ∧
        (next (s.request j inner.run).1).Proper (s.request j inner.run).2

namespace Session

/-- The steps for an object among those of a caller and of its fetches. A caller's steps are those of a
fetch that takes them one by one. -/
def stepsFor (s : Session) (i : Nat) (idle : Fetch) (steps : List Step) : List Step :=
  (Fetch.doing (.ok []) steps).stepsFor i idle s

/-- Whatever a caller and its fetches do is done to objects that are there. -/
def Proper (s : Session) (steps : List Step) : Prop :=
  (Fetch.doing (.ok []) steps).Proper s

/-! ### What goes on in a session -/

/-- Between two sessions things have happened and copies have been made, and the objects that were there
are what they were. -/
structure Grows (s after : Session) : Prop where
  history : s.history <+: after.history
  present : s.objects.length ≤ after.objects.length
  holders : ∀ j, j < s.objects.length → (after.object j).holder = (s.object j).holder

theorem Grows.refl (s : Session) : s.Grows s :=
  ⟨List.prefix_rfl, Nat.le_refl _, fun _ _ => rfl⟩

theorem Grows.trans {s middle after : Session} (first : s.Grows middle) (second : middle.Grows after) :
    s.Grows after := by
  refine ⟨first.history.trans second.history, Nat.le_trans first.present second.present, ?_⟩
  intro j inside
  rw [second.holders j (Nat.lt_of_lt_of_le inside first.present), first.holders j inside]

section
variable {s : Session} {i : Nat}

theorem grows_record (e : Event) : s.Grows (s.record e) :=
  ⟨List.prefix_append _ _, Nat.le_refl _, fun _ _ => rfl⟩

theorem grows_updateCache (change : ChildCache → ChildCache) : s.Grows (s.updateCache i change) :=
  ⟨List.prefix_rfl, by simp, fun j _ => s.holder_updateCache i j change⟩

theorem grows_clear : s.Grows (s.clear i).2 := by
  unfold clear
  split
  · exact .refl s
  · exact (grows_updateCache _).trans (grows_record _)

theorem grows_copy (update : Fields) : s.Grows (s.copy i update).2 :=
  ⟨List.prefix_rfl, by simp [copy], fun _ inside => by rw [Replay.object_copy i update inside]⟩

theorem grows_beginFetch (request : Nat) (way : Way) : s.Grows (s.beginFetch i request way) := by
  have counted : s.Grows { s with fetches := s.fetches + 1 } :=
    ⟨List.prefix_rfl, Nat.le_refl _, fun _ _ => rfl⟩
  exact counted.trans ((grows_updateCache _).trans (grows_record _))

theorem grows_finishFetch (way : Way) (t : Ticket) (outcome : Except Failure (List Child)) :
    s.Grows (s.finishFetch i way t outcome).2 := by
  have noted : s.Grows (s.note (fetchAnswer (s.object i).holder t.fetch outcome).2) :=
    ⟨List.prefix_rfl, Nat.le_refl _, fun _ _ => rfl⟩
  exact noted.trans ((grows_updateCache _).trans (grows_record _))

theorem grows_request {carryOut : Session → Except Failure (List Child) × Session}
    (grows : ∀ s : Session, s.Grows (carryOut s).2) : s.Grows (s.request i carryOut).2 := by
  unfold request
  split
  · exact grows_record _
  · exact (grows_beginFetch _ _).trans ((grows _).trans (grows_finishFetch _ _ _))

theorem grows_run (fetch : Fetch) : ∀ s : Session, s.Grows (fetch.run s).2 := by
  induction fetch with
  | finish outcome => exact fun s => ⟨List.prefix_rfl, Nat.le_refl _, fun _ _ => rfl⟩
  | clear i next ih => exact fun s => grows_clear.trans (ih _ _)
  | peek i next ih => exact fun s => (grows_record _).trans (ih _ _)
  | copy i update next ih => exact fun s => (grows_copy update).trans (ih _ _)
  | get i inner next innerIh ih => exact fun s => (grows_request innerIh).trans (ih _ _)

theorem grows_step (step : Step) : s.Grows (s.step step) := by
  cases step with
  | get i fetch => exact grows_request (grows_run fetch)
  | clear i => exact grows_clear
  | peek i => exact grows_record _
  | copy i update => exact grows_copy update

end

end Session

/-! ### A session and one of its objects alone -/

/-- A session with a single object is where the steps for one object of another session would bring it.
Requests and fetches have the numbers that they have in the end, among the events about the object. -/
structure Mirrors (i : Nat) (last s alone : Session) : Prop where
  objects : alone.objects =
    [⟨(last.object i).holder, (s.object i).cache.renumber (last.history.rank i)⟩]
  history : alone.history =
    (s.history.filter (Event.isAbout i)).map (Event.renumber (last.history.rank i))

namespace Mirrors

section
variable {i j : Nat} {last s after alone : Session}

theorem object_zero (mirrors : Mirrors i last s alone) :
    alone.object 0 = ⟨(last.object i).holder, (s.object i).cache.renumber (last.history.rank i)⟩ := by
  simp [Session.object, mirrors.objects]

/-- What happens next to the object has its own number. -/
theorem now (mirrors : Mirrors i last s alone) (grows : s.Grows last) :
    alone.now = last.history.rank i s.now := by
  obtain ⟨rest, history⟩ := grows.history
  rw [Session.now, Session.now, mirrors.history, List.length_map, ← List.countP_eq_length_filter,
    History.rank, ← history, List.take_left]

/-! What is done to other objects is not seen. -/

theorem of_same (mirrors : Mirrors i last s alone) (same : (after.object i).cache = (s.object i).cache)
    (history : after.history = s.history) : Mirrors i last after alone :=
  ⟨by rw [same, mirrors.objects], by rw [history, mirrors.history]⟩

theorem record_other (mirrors : Mirrors i last s alone) (e : Event) (about : e.object? = some j)
    (other : i ≠ j) : Mirrors i last (s.record e) alone := by
  refine ⟨mirrors.objects, ?_⟩
  have unseen : [e].filter (Event.isAbout i) = [] := by simp [Event.isAbout, about, other.symm]
  rw [Session.history_record, List.filter_append, unseen, List.append_nil, mirrors.history]

theorem updateCache_other (mirrors : Mirrors i last s alone) (other : i ≠ j)
    (change : ChildCache → ChildCache) : Mirrors i last (s.updateCache j change) alone :=
  mirrors.of_same (by rw [s.object_updateCache_of_ne change other]) rfl

theorem beginFetch_other (mirrors : Mirrors i last s alone) (other : i ≠ j) (request : Nat) (way : Way) :
    Mirrors i last (s.beginFetch j request way) alone := by
  have counted : Mirrors i last { s with fetches := s.fetches + 1 } alone :=
    ⟨mirrors.objects, mirrors.history⟩
  exact (counted.updateCache_other other _).record_other (.entered j request s.now way) rfl other

theorem finishFetch_other (mirrors : Mirrors i last s alone) (other : i ≠ j) (way : Way) (t : Ticket)
    (outcome : Except Failure (List Child)) :
    Mirrors i last (s.finishFetch j way t outcome).2 alone := by
  have noted :
      Mirrors i last (s.note (Session.fetchAnswer (s.object j).holder t.fetch outcome).2) alone :=
    ⟨mirrors.objects, mirrors.history⟩
  exact (noted.updateCache_other other _).record_other _ rfl other

/-! What is done to the object is done alike to the one that stands alone. -/

theorem record (mirrors : Mirrors i last s alone) (e : Event) (about : e.object? = some i) :
    Mirrors i last (s.record e) (alone.record (e.renumber (last.history.rank i))) := by
  refine ⟨mirrors.objects, ?_⟩
  have seen : [e].filter (Event.isAbout i) = [e] := by simp [Event.isAbout, about]
  rw [Session.history_record, Session.history_record, List.filter_append, seen, List.map_append,
    List.map_singleton, mirrors.history]

theorem updateCache (mirrors : Mirrors i last s alone) (inside : i < s.objects.length)
    (change change' : ChildCache → ChildCache)
    (alike : (change (s.object i).cache).renumber (last.history.rank i) =
      change' ((s.object i).cache.renumber (last.history.rank i))) :
    Mirrors i last (s.updateCache i change) (alone.updateCache 0 change') := by
  refine ⟨?_, mirrors.history⟩
  rw [s.cache_updateCache change inside, alike]
  simp [Session.updateCache, mirrors.objects]

theorem beginFetch (mirrors : Mirrors i last s alone) (grows : s.Grows last)
    (inside : i < s.objects.length) (way : Way) :
    Mirrors i last (s.beginFetch i s.now way) (alone.beginFetch 0 alone.now way) := by
  have counted : Mirrors i last { s with fetches := s.fetches + 1 }
      { alone with fetches := alone.fetches + 1 } := ⟨mirrors.objects, mirrors.history⟩
  have occupied := counted.updateCache inside (·.occupy way) (·.occupy way)
    (ChildCache.renumber_occupy _ _ way)
  have entered := occupied.record (.entered i s.now s.now way) rfl
  rw [Event.renumber, ← mirrors.now grows] at entered
  exact entered

theorem finishFetch (mirrors : Mirrors i last s alone) (grows : s.Grows last)
    (inside : i < s.objects.length) (way : Way) (t : Ticket) (outcome : Except Failure (List Child)) :
    Mirrors i last (s.finishFetch i way t outcome).2
      (alone.finishFetch 0 way (t.renumber (last.history.rank i)) outcome).2 := by
  let f := last.history.rank i
  let answer := (Session.fetchAnswer (s.object i).holder t.fetch outcome).1
  have answered : (Session.fetchAnswer (alone.object 0).holder (f t.fetch) outcome).1 =
      answer.map (·.renumber f) := by
    rw [mirrors.object_zero, fetchAnswer_renumber, grows.holders i inside]
  have kept : (alone.object 0).cache.keeps t.generation outcome =
      (s.object i).cache.keeps t.generation outcome := by
    rw [mirrors.object_zero]
    rfl
  have noted : Mirrors i last (s.note (Session.fetchAnswer (s.object i).holder t.fetch outcome).2)
      (alone.note (Session.fetchAnswer (alone.object 0).holder (f t.fetch) outcome).2) :=
    ⟨mirrors.objects, mirrors.history⟩
  have settled := noted.updateCache inside (fun c => (c.store t outcome).release way)
    (fun c => (c.store (t.renumber f) outcome).release way)
    (by rw [ChildCache.renumber_release, ChildCache.renumber_store])
  let ended := Event.answered i t.request
    (.fetched way t.fetch outcome ((s.object i).cache.keeps t.generation outcome)) answer
  have same : (alone.finishFetch 0 way (t.renumber f) outcome).2 =
      ((alone.note (Session.fetchAnswer (alone.object 0).holder (f t.fetch) outcome).2).updateCache 0
        fun c => (c.store (t.renumber f) outcome).release way).record
          (ended.renumber f) := by
    rw [Event.renumber, Source.renumber, ← kept, ← answered]
    rfl
  rw [same]
  exact settled.record ended rfl

/-! Each operation of a run. -/

theorem clear (mirrors : Mirrors i last s alone) (inside : j < s.objects.length) :
    Mirrors i last (s.clear j).2 (alone.steps (addressed i j (.clear 0))) := by
  by_cases own : j = i
  · subst own
    have broken : (alone.object 0).cache.broken = (s.object j).cache.broken := by
      rw [mirrors.object_zero]
      rfl
    rw [addressed, if_pos rfl]
    change Mirrors j last _ (alone.clear 0).2
    unfold Session.clear
    rw [broken]
    split
    · exact mirrors
    · exact (mirrors.updateCache inside _ _ (ChildCache.renumber_clear _ _)).record (.cleared j) rfl
  · rw [addressed, if_neg own]
    unfold Session.clear
    split
    · exact mirrors
    · exact (mirrors.updateCache_other (Ne.symm own) _).record_other (.cleared j) rfl (Ne.symm own)

theorem peek (mirrors : Mirrors i last s alone) :
    Mirrors i last (s.peek j).2 (alone.steps (addressed i j (.peek 0))) := by
  by_cases own : j = i
  · subst own
    have populated : alone.isPopulated 0 = s.isPopulated j := by
      rw [Session.isPopulated, mirrors.object_zero, ChildCache.isPopulated_renumber, Session.isPopulated]
    rw [addressed, if_pos rfl]
    change Mirrors j last _ (alone.record (.peeked 0 (alone.isPopulated 0)))
    rw [populated]
    exact mirrors.record (.peeked j (s.isPopulated j)) rfl
  · rw [addressed, if_neg own]
    exact mirrors.record_other (.peeked j (s.isPopulated j)) rfl (Ne.symm own)

/-- The copy of an object is not seen before something is done to it: the cache of an object that is not
there counts as a new one. -/
theorem copy (mirrors : Mirrors i last s alone) (update : Fields) :
    Mirrors i last (s.copy j update).2 alone := by
  have caches : (s.copy j update).2.marks id = s.marks id := marks_copy update
  exact mirrors.of_same (congrFun caches i) rfl

/-- A request that needs no fetch gets the same answer. -/
theorem directAnswer? (mirrors : Mirrors i last s alone) (grows : s.Grows last)
    (inside : i < s.objects.length) :
    alone.directAnswer? 0 = (s.directAnswer? i).map fun found =>
      (found.1.renumber (last.history.rank i), found.2.map (·.renumber (last.history.rank i))) := by
  have holder := grows.holders i inside
  unfold Session.directAnswer?
  rw [mirrors.object_zero, holder]
  cases stored : (s.object i).cache.stored with
  | some result => simp [ChildCache.renumber, stored, Source.renumber, Except.map]
  | none =>
      simp only [ChildCache.renumber, stored, Option.map_none]
      split
      · rfl
      · split <;> rfl

theorem request_answered (mirrors : Mirrors i last s alone) (grows : s.Grows last)
    (inside : j < s.objects.length) {source : Source} {answer : Except Failure Stored}
    (found : s.directAnswer? j = some (source, answer)) (idle : Fetch) :
    Mirrors i last (s.record (.answered j s.now source answer))
      (alone.steps (addressed i j (.get 0 idle))) := by
  by_cases own : j = i
  · subst own
    have answered := mirrors.directAnswer? grows inside
    rw [found, Option.map_some] at answered
    rw [addressed, if_pos rfl]
    change Mirrors j last _ (alone.get 0 idle).2
    simp only [Session.get, Session.request, answered, mirrors.now grows]
    exact mirrors.record (.answered j s.now source answer) rfl
  · rw [addressed, if_neg own]
    exact mirrors.record_other (.answered j s.now source answer) rfl (Ne.symm own)

/-- A fetch for the object is done alike if what it does is. -/
theorem request_fetched (mirrors : Mirrors i last s alone) (grows : s.Grows last)
    (inside : i < s.objects.length) (unanswered : s.directAnswer? i = none) {during : Session}
    (reached : (s.beginFetch i s.now .direct).Grows during) (ended : during.Grows last)
    {within : List Step} (outcome : Except Failure (List Child))
    (alike : ∀ entered, Mirrors i last (s.beginFetch i s.now .direct) entered →
      Mirrors i last during (entered.steps within)) :
    Mirrors i last (during.finishFetch i .direct (s.ticket i s.now) outcome).2
      (alone.get 0 (.doing outcome within)).2 := by
  have answered := mirrors.directAnswer? grows inside
  rw [unanswered, Option.map_none] at answered
  have present : i < during.objects.length :=
    Nat.lt_of_lt_of_le (by simpa using inside) reached.present
  have ticket : alone.ticket 0 alone.now = (s.ticket i s.now).renumber (last.history.rank i) := by
    rw [Session.ticket, mirrors.object_zero, mirrors.now grows]
    rfl
  have fetched := alike _ (mirrors.beginFetch grows inside .direct)
  rw [Replay.get_of_unanswered answered, run_doing, ticket]
  exact fetched.finishFetch ended present .direct _ _

/-- What a request for any object does is done alike if what its fetch does is. -/
theorem request (mirrors : Mirrors i last s alone) (idle : Fetch) (inside : j < s.objects.length)
    {carryOut : Session → Except Failure (List Child) × Session} {within : List Step}
    (grows : ∀ s : Session, s.Grows (carryOut s).2) (grown : (s.request j carryOut).2.Grows last)
    (alike : s.directAnswer? j = none → (carryOut (s.beginFetch j s.now .direct)).2.Grows last →
      ∀ entered, Mirrors i last (s.beginFetch j s.now .direct) entered →
        Mirrors i last (carryOut (s.beginFetch j s.now .direct)).2 (entered.steps within)) :
    Mirrors i last (s.request j carryOut).2
      (alone.steps (s.requestFor i idle j (carryOut (s.beginFetch j s.now .direct)).1 within)) := by
  have before : s.Grows last := (Session.grows_request grows).trans grown
  cases found : s.directAnswer? j with
  | some found' =>
      obtain ⟨source, answer⟩ := found'
      simp only [Session.request, Session.requestFor, found]
      exact mirrors.request_answered before inside found idle
  | none =>
      simp only [Session.request, Session.requestFor, found] at grown ⊢
      have ended := (Session.grows_finishFetch _ _ _).trans grown
      by_cases own : j = i
      · subst own
        rw [if_pos rfl]
        exact mirrors.request_fetched before inside found (grows _) ended _ (alike found ended)
      · rw [if_neg own]
        have entered := mirrors.beginFetch_other (Ne.symm own) s.now .direct
        exact (alike found ended alone entered).finishFetch_other (Ne.symm own) _ _ _

end

end Mirrors

/-- The steps of a fetch for an object do to it alone what the fetch does to it. -/
theorem mirrors_run {i : Nat} {last : Session} (idle fetch : Fetch) : ∀ s alone : Session,
    fetch.Proper s → (fetch.run s).2.Grows last → Mirrors i last s alone →
      Mirrors i last (fetch.run s).2 (alone.steps (fetch.stepsFor i idle s)) := by
  induction fetch with
  | finish outcome => exact fun s alone _ _ mirrors => ⟨mirrors.objects, mirrors.history⟩
  | clear j next ih =>
      intro s alone proper grows mirrors
      rw [Fetch.stepsFor, Session.steps_append]
      exact ih _ _ _ proper.2 grows (mirrors.clear proper.1)
  | peek j next ih =>
      intro s alone proper grows mirrors
      rw [Fetch.stepsFor, Session.steps_append]
      exact ih _ _ _ proper.2 grows mirrors.peek
  | copy j update next ih =>
      intro s alone proper grows mirrors
      exact ih _ _ _ proper.2 grows (mirrors.copy update)
  | get j inner next innerIh ih =>
      intro s alone proper grows mirrors
      rw [Fetch.stepsFor, Session.steps_append]
      have requested : (s.request j inner.run).2.Grows last := (Session.grows_run _ _).trans grows
      refine ih _ _ _ proper.2.2 grows
        (mirrors.request idle proper.1 (Session.grows_run inner) requested ?_)
      exact fun unanswered ended entered => innerIh _ entered (proper.2.1 unanswered) ended

theorem mirrors_start (holders : List CacheHolder) (i : Nat) (last : Session) :
    Mirrors i last (Session.start holders) (Session.start [(last.object i).holder]) := by
  have fresh : ((Session.start holders).object i).cache = .empty := by
    by_cases inside : i < holders.length
    · simp [Session.start, Session.object, inside]
    · rw [object_of_absent (by simpa [Session.start] using inside)]
      rfl
  refine ⟨?_, rfl⟩
  rw [fresh]
  rfl

/-- Copies are independent. In a run from some objects that were never used, where copies of objects
are made at any time, also inside fetches, take any object, copy or not, and make its steps alone, on
an object with its holder that was never used either. The events are those about the object in the
whole run: what was seen of the children, the answers, and the fetches that were made. Only they are
numbered among themselves, and different fetches have different numbers. The cache ends up the same.

A copy is a new object with a cache that was never used, and no step changes the holder of an object
that is there, with all its fields. Where objects only refer to their caches it is the same, whichever
way copies are made. -/
theorem copies_independent (holders : List CacheHolder) (steps : List Step) (i : Nat) (idle : Fetch)
    (proper : (Session.start holders).Proper steps) :
    let s := (Session.start holders).steps steps
    let alone := (Session.start [(s.object i).holder]).steps
      ((Session.start holders).stepsFor i idle steps)
    (alone.history = s.history.alone i ∧
      (∀ p q e, s.history[p]? = some e → e.isAbout i = true → p < q →
        s.history.rank i p < s.history.rank i q) ∧
      (alone.object 0).cache = (s.object i).cache.renumber (s.history.rank i) ∧
      alone.isPopulated 0 = s.isPopulated i) ∧
    (∀ (t : Session) (j : Nat) (update : Fields), (t.copy j update).2.object (t.copy j update).1 =
      ⟨Session.revisedHolder (t.object j).holder update, .empty⟩) ∧
    (∀ (t : Session) (step : Step) (j : Nat), j < t.objects.length →
      ((t.step step).object j).holder = (t.object j).holder) ∧
    (Store.start holders).Shows (Session.start holders) ∧
    ∀ (store : Store) (t : Session) (j : Nat), store.Shows t →
      (∀ way : CopyWay, (store.copy j way).Shows (t.copy j way.update).2) ∧
      ∀ o, store.objects[j]? = some o → ∀ change : ChildCache → ChildCache,
        (store.changeCache o.place change).Shows (t.updateCache j change) := by
  intro s alone
  have ran := run_doing (.ok []) steps (Session.start holders)
  have mirrors : Mirrors i s s alone := by
    have grows : ((Fetch.doing (.ok []) steps).run (Session.start holders)).2.Grows s := by
      rw [ran]
      exact .refl s
    have done := mirrors_run idle _ _ _ proper grows (mirrors_start holders i s)
    rw [ran] at done
    exact done
  refine ⟨⟨mirrors.history, ?_, ?_, ?_⟩, ?_, ?_, Store.shows_start holders, ?_⟩
  · exact fun p q e here about later => History.rank_lt here about later
  · rw [mirrors.object_zero]
  · rw [Session.isPopulated, mirrors.object_zero, ChildCache.isPopulated_renumber, Session.isPopulated]
  · intro t j update
    simp [Session.copy, Session.object]
  · exact fun t step j inside => (Session.grows_step step).holders j inside
  · intro store t j shows
    exact ⟨fun way => shows.copy j way, fun o here change => shows.changeCache here change⟩

/-- A fetch that copies its own object on the way and fetches the children of the copy. -/
def Fetch.copying : Fetch :=
  .copy 0 [] fun n => .get n (.finish (.ofExcept (.ok [.value (.integer 1)])))
    fun _ => .finish (.ofExcept (.ok [.value (.integer 2)]))

/-- A routine is copied within a fetch for its children, and is refreshed later. The copy holds what was
fetched for it, as if there were no other. -/
theorem copies_independent_copying :
    let holder := CacheHolder.routine default
    let steps := [.get 0 .copying, .clear 0, .peek 1]
    let within := [.get 0 (.doing (.ok [.value (.integer 1)]) []), .peek 0]
    let s := (Session.start [holder]).steps steps
    (Session.start [holder]).Proper steps ∧
      (Session.start [holder]).stepsFor 1 .copying steps = within ∧
      ((Session.start [holder]).steps within).history = s.history.alone 1 ∧
      s.isPopulated 0 = false ∧ s.isPopulated 1 = true ∧
      ((Session.start [holder]).steps within).isPopulated 0 = true := by
  intro holder steps within s
  have copying : Fetch.copying.Proper ((Session.start [holder]).beginFetch 0 0 .direct) :=
    ⟨by decide, by decide, fun _ => trivial, trivial⟩
  have proper : (Session.start [holder]).Proper steps :=
    ⟨by decide, fun _ => copying, by decide, by decide, trivial⟩
  have only : (Session.start [holder]).stepsFor 1 .copying steps = within := rfl
  obtain ⟨⟨history, _, _, populated⟩, _⟩ := copies_independent [holder] steps 1 .copying proper
  exact ⟨proper, only, history, rfl, rfl, populated⟩

end Syscat
