/-
Module: Syscat.Proofs.Cache.Faithful
Purpose: The caches of a session are what its history says, and the history is lawful. Each operation
  that is over at once keeps this.
Main exports: Matches, Faithful, Carries, Ticket.OpenIn, Faithful.follow, Faithful.clear, Faithful.peek,
  Faithful.copy
-/
import Syscat.Proofs.Cache.Laws

namespace Syscat.Replay

/-- A cache is in the state in which a history leaves the cache of an object. -/
structure Matches (c : ChildCache) (i : Nat) (h : History) : Prop where
  stored : c.stored = contents i h
  generation : c.generation = clears i h
  fetching : c.fetching = (current i .direct h).isSome
  locked : c.locked = (current i .direct h).isSome
  taken : c.turnstile.taken = (current i .tasks h).isSome
  working : c.broken = none

/-- A session with some first objects whose caches are what its lawful history says. -/
structure Faithful (holders : List CacheHolder) (s : Session) : Prop where
  present : holders.length ≤ s.objects.length
  holder : ∀ i, i < holders.length → (s.object i).holder = holders.getD i default
  lawful : Lawful holders s.history
  caches : ∀ i, i < holders.length → Matches (s.object i).cache i s.history

/-- Whether an event is the doing of a task. -/
def Event.ByTask : Event → Prop
  | .began | .queued _ | .withdrawn _ _ => True
  | .entered _ _ _ way => way.lane = .tasks
  | .answered _ _ (.fetched way _ _ _) _ => way.lane = .tasks
  | _ => False

/-- Between two sessions something has been done directly, and the fetches in progress are the same. -/
structure Carries (holders : List CacheHolder) (s after : Session) : Prop where
  history : ∃ rest, after.history = s.history ++ rest ∧ ∀ e ∈ rest, ¬ Event.ByTask e
  running : ∀ i, i < holders.length → ∀ lane, current i lane after.history = current i lane s.history

/-- A ticket belongs to a fetch that is in progress after a history. -/
structure Ticket.OpenIn (t : Ticket) (i : Nat) (way : Way) (h : History) : Prop where
  entered : h[t.fetch]? = some (.entered i t.request t.fetch way)
  running : current i way.lane h = some t.fetch
  generation : t.generation = clears i (h.take t.fetch)

/-- A session is carried on by nothing that leaves its history as it is. -/
theorem Carries.of_eq {holders : List CacheHolder} {s after : Session}
    (same : after.history = s.history) : Carries holders s after :=
  ⟨⟨[], by simp [same], by simp⟩, fun _ _ _ => by rw [same]⟩

theorem Carries.trans {holders : List CacheHolder} {s middle after : Session}
    (first : Carries holders s middle) (second : Carries holders middle after) :
    Carries holders s after := by
  obtain ⟨rest, history, direct⟩ := first.history
  obtain ⟨more, history', direct'⟩ := second.history
  refine ⟨⟨rest ++ more, ?_, ?_⟩, fun i known lane => ?_⟩
  · rw [history', history, List.append_assoc]
  · intro e member
    rcases List.mem_append.mp member with early | late
    · exact direct e early
    · exact direct' e late
  · exact (second.running i known lane).trans (first.running i known lane)

theorem Carries.longer {holders : List CacheHolder} {s after : Session}
    (carried : Carries holders s after) : s.history <+: after.history := by
  obtain ⟨rest, history, _⟩ := carried.history
  exact ⟨rest, history.symm⟩

theorem getElem?_of_longer {h longer : History} {p : Nat} {e : Event} (more : h <+: longer)
    (here : h[p]? = some e) : longer[p]? = some e := by
  obtain ⟨rest, rfl⟩ := more
  rw [List.getElem?_append_left (lt_length here)]
  exact here

theorem take_of_longer {h longer : History} {p : Nat} (more : h <+: longer) (inside : p ≤ h.length) :
    longer.take p = h.take p := by
  obtain ⟨rest, rfl⟩ := more
  exact List.take_append_of_le_length inside

/-- A fetch stays in progress while more happens that does not end it. -/
theorem Ticket.OpenIn.extend {t : Ticket} {i : Nat} {way : Way} {h longer : History}
    (opened : Ticket.OpenIn t i way h) (more : h <+: longer)
    (same : current i way.lane longer = current i way.lane h) : Ticket.OpenIn t i way longer := by
  refine ⟨getElem?_of_longer more opened.entered, same.trans opened.running, ?_⟩
  rw [take_of_longer more (Nat.le_of_lt (lt_length opened.entered))]
  exact opened.generation

/-- One fetch at most is in progress in each lane. -/
theorem Ticket.OpenIn.unique {t u : Ticket} {i : Nat} {way way' : Way} {h : History}
    (opened : Ticket.OpenIn t i way h) (opened' : Ticket.OpenIn u i way' h)
    (lane : way.lane = way'.lane) : way = way' := by
  have running := opened.running
  rw [lane, opened'.running] at running
  have entered : EnteredAt h t.fetch i t.request way := opened.entered
  rw [← Option.some.inj running] at entered
  exact (entered.unique opened'.entered).2

/-! ### Events about other objects -/

section
variable {e : Event} {i j : Nat} {h : History}

theorem contents_of_other (about : e.object? = some i) (other : j ≠ i) :
    contents j (h ++ [e]) = contents j h := by
  rw [contents_append, Event.contentsAfter]
  have notClear : ¬ e.clears j = true := by
    intro clear
    rw [clears_iff.mp clear] at about
    exact other (Option.some.inj about)
  have notKept : e.kept? j = none := by
    cases kept : e.kept? j with
    | none => rfl
    | some result =>
        obtain ⟨_, _, _, rfl⟩ := kept?_eq_some.mp kept
        exact absurd (Option.some.inj about) other
  rw [if_neg notClear, notKept, Option.none_or]

theorem clears_of_other (about : e.object? = some i) (other : j ≠ i) :
    clears j (h ++ [e]) = clears j h := by
  rw [clears_append, if_neg, Nat.add_zero]
  intro clear
  rw [clears_iff.mp clear] at about
  exact other (Option.some.inj about)

theorem current_of_other {lane : Lane} (about : e.object? = some i) (other : j ≠ i) :
    current j lane (h ++ [e]) = current j lane h := by
  rw [current_append]
  unfold Event.currentAfter
  unfold Event.object? at about
  grind

theorem Matches.of_other {c : ChildCache} (matched : Matches c j h) (about : e.object? = some i)
    (other : j ≠ i) : Matches c j (h ++ [e]) := by
  constructor
  · rw [contents_of_other about other, matched.stored]
  · rw [clears_of_other about other, matched.generation]
  · rw [current_of_other about other, matched.fetching]
  · rw [current_of_other about other, matched.locked]
  · rw [current_of_other about other, matched.taken]
  · exact matched.working

end

/-! ### Operations -/

section
variable {holders : List CacheHolder} {s after : Session}

/-- One event about an object keeps a session faithful if it is permitted and the object's cache follows
it, and nothing else changes. -/
theorem Faithful.follow (faithful : Faithful holders s) {e : Event} {i : Nat} (about : e.object? = some i)
    (history : after.history = s.history ++ [e]) (present : s.objects.length ≤ after.objects.length)
    (others : ∀ j, j ≠ i → after.object j = s.object j)
    (holder : (after.object i).holder = (s.object i).holder)
    (permitted : i < holders.length → Permitted holders s.history e)
    (matched : i < holders.length → Matches (after.object i).cache i (s.history ++ [e])) :
    Faithful holders after := by
  refine ⟨Nat.le_trans faithful.present present, ?_, ?_, ?_⟩
  · intro j known
    rw [← faithful.holder j known]
    by_cases same : j = i
    · rw [same, holder]
    · rw [others j same]
  · rw [history]
    exact faithful.lawful.append fun concerns => permitted (concerns i about)
  · intro j known
    rw [history]
    by_cases same : j = i
    · subst same
      exact matched known
    · rw [others j same]
      exact (faithful.caches j known).of_other about same

/-- A change of an object's cache along with an event about it. -/
theorem Faithful.change (faithful : Faithful holders s) {e : Event} {i : Nat}
    (about : e.object? = some i) (change : ChildCache → ChildCache)
    (permitted : i < holders.length → Permitted holders s.history e)
    (matched : i < holders.length → Matches (s.object i).cache i s.history →
      Matches (change (s.object i).cache) i (s.history ++ [e])) :
    Faithful holders ((s.updateCache i change).record e) := by
  refine faithful.follow about rfl ?_ ?_ ?_ permitted ?_
  · simp
  · intro j other
    rw [Session.object_record, s.object_updateCache_of_ne change other]
  · exact s.holder_updateCache i i change
  · intro known
    rw [Session.object_record, s.cache_updateCache change (Nat.lt_of_lt_of_le known faithful.present)]
    exact matched known (faithful.caches i known)

/-- An event that changes no cache. -/
theorem Faithful.record (faithful : Faithful holders s) {e : Event} {i : Nat}
    (about : e.object? = some i) (permitted : i < holders.length → Permitted holders s.history e)
    (matched : i < holders.length → Matches (s.object i).cache i s.history →
      Matches (s.object i).cache i (s.history ++ [e])) : Faithful holders (s.record e) :=
  faithful.follow about rfl (Nat.le_refl _) (fun _ _ => rfl) rfl permitted
    fun known => matched known (faithful.caches i known)

/-- What leaves the objects and the history alone leaves a session faithful. -/
theorem Faithful.of_same (faithful : Faithful holders s) (objects : after.objects = s.objects)
    (history : after.history = s.history) : Faithful holders after := by
  have same (i : Nat) : after.object i = s.object i := by rw [Session.object, objects, Session.object]
  refine ⟨objects ▸ faithful.present, ?_, history ▸ faithful.lawful, ?_⟩
  · exact fun i known => (same i).symm ▸ faithful.holder i known
  · intro i known
    rw [same, history]
    exact faithful.caches i known

/-- A direct event that begins and ends no fetch carries a session on. -/
theorem Carries.of_event {e : Event} (history : after.history = s.history ++ [e])
    (direct : ¬ Event.ByTask e)
    (same : ∀ i lane, current i lane (s.history ++ [e]) = current i lane s.history) :
    Carries holders s after := by
  refine ⟨⟨[e], history, ?_⟩, fun i _ lane => ?_⟩
  · intro other member
    rw [List.mem_singleton.mp member]
    exact direct
  · rw [history]
    exact same i lane

theorem Faithful.clear (faithful : Faithful holders s) (i : Nat) : Faithful holders (s.clear i).2 := by
  unfold Session.clear
  split
  · exact faithful
  · refine faithful.change (by rfl) _ (fun _ => trivial) ?_
    intro known matched
    constructor
    · simp [Event.contentsAfter, Event.clears, ChildCache.clear]
    · simp [Event.clears, ChildCache.clear, matched.generation]
    · simp [Event.currentAfter, ChildCache.clear, matched.fetching]
    · simp [Event.currentAfter, ChildCache.clear, matched.locked]
    · simp [Event.currentAfter, ChildCache.clear, matched.taken]
    · exact matched.working

theorem carries_clear (i : Nat) : Carries holders s (s.clear i).2 := by
  unfold Session.clear
  split
  · exact Carries.of_eq rfl
  · exact Carries.of_event rfl id fun _ _ => by simp [Event.currentAfter]

/-- An event that neither stores, clears, enters nor ends anything leaves a cache as the history says. -/
theorem Matches.of_idle {c : ChildCache} {i : Nat} {h : History} {e : Event} (matched : Matches c i h)
    (clear : e.clears i = false) (kept : e.kept? i = none)
    (idle : ∀ lane running, e.currentAfter i lane running = running) : Matches c i (h ++ [e]) := by
  constructor
  · simp [Event.contentsAfter, clear, kept, matched.stored]
  · simp [clear, matched.generation]
  · simp [idle, matched.fetching]
  · simp [idle, matched.locked]
  · simp [idle, matched.taken]
  · exact matched.working

theorem Faithful.peek (faithful : Faithful holders s) (i : Nat) : Faithful holders (s.peek i).2 := by
  refine faithful.record (i := i) (by rfl) ?_ ?_
  · intro known
    simp [Permitted, Session.isPopulated, ChildCache.isPopulated, (faithful.caches i known).stored]
  · intro known matched
    exact matched.of_idle rfl rfl fun _ _ => rfl

theorem carries_peek (i : Nat) : Carries holders s (s.peek i).2 :=
  Carries.of_event rfl id fun _ _ => by simp [Event.currentAfter]

/-- A copy is added behind the objects that are there. -/
theorem object_copy (i : Nat) (update : Fields) {j : Nat} (present : j < s.objects.length) :
    (s.copy i update).2.object j = s.object j := by
  simp [Session.copy, Session.object, List.getElem?_append_left, present]

theorem Faithful.copy (faithful : Faithful holders s) (i : Nat) (update : Fields) :
    Faithful holders (s.copy i update).2 := by
  refine ⟨?_, ?_, faithful.lawful, ?_⟩
  · simpa [Session.copy] using Nat.le_succ_of_le faithful.present
  · intro j known
    rw [object_copy i update (Nat.lt_of_lt_of_le known faithful.present)]
    exact faithful.holder j known
  · intro j known
    rw [object_copy i update (Nat.lt_of_lt_of_le known faithful.present)]
    exact faithful.caches j known

theorem carries_copy (i : Nat) (update : Fields) : Carries holders s (s.copy i update).2 :=
  Carries.of_eq rfl

end

end Syscat.Replay
