/-
Module: Syscat.Proofs.Cache.Replay
Purpose: What a history alone says about the cache of an object: the children that it holds, how often it
  was cleared, and which fetch is in progress in each lane. The theorems locate the events behind it.
Main exports: Lane, contents, clears, current, StoredAt, EnteredAt, ClearFree, HeldFrom,
  HeldFrom.not_empty, contents_origin, current_origin
-/
import Syscat.Cache.Run

namespace Syscat

/-- Fetches of one lane have a lock and a mark in common. -/
inductive Lane where
  | direct
  | tasks
deriving DecidableEq, Repr

/-- The lane of a way to fetch. -/
def Way.lane : Way → Lane
  | direct => .direct
  | task _ => .tasks

namespace Event

/-- The result that a cache keeps because of an event, whatever the answer is. -/
def kept? (i : Nat) : Event → Option Stored
  | answered j _ (.fetched _ fetch (.ok children) true) _ =>
      if j = i then some ⟨fetch, children⟩ else none
  | _ => none

/-- Whether an event clears the cache of an object. -/
def clears (i : Nat) : Event → Bool
  | cleared j => j == i
  | _ => false

/-- What a cache holds after an event. -/
def contentsAfter (i : Nat) (held : Option Stored) (e : Event) : Option Stored :=
  if e.clears i then none else (e.kept? i).or held

/-- The fetch in progress in a lane after an event. -/
def currentAfter (i : Nat) (lane : Lane) (running : Option Nat) : Event → Option Nat
  | began => if lane = .tasks then none else running
  | entered j _ fetch way => if j = i ∧ way.lane = lane then some fetch else running
  | answered j _ (.fetched way _ _ _) _ => if j = i ∧ way.lane = lane then none else running
  | _ => running

end Event

namespace Replay

/-- The children that the cache of an object holds after a history. -/
def contents (i : Nat) (h : History) : Option Stored :=
  h.foldl (Event.contentsAfter i) none

/-- How often the cache of an object has been cleared in a history. -/
def clears (i : Nat) (h : History) : Nat :=
  h.countP (Event.clears i)

/-- The fetch for the children of an object that is in progress in a lane after a history. -/
def current (i : Nat) (lane : Lane) (h : History) : Option Nat :=
  h.foldl (Event.currentAfter i lane) none

/-- A cache takes the result of a fetch at a place of the history. -/
def StoredAt (h : History) (p i : Nat) (result : Stored) : Prop :=
  ∃ request way answer,
    h[p]? = some (.answered i request (.fetched way result.stamp (.ok result.children) true) answer)

/-- A fetch is entered at a place of the history, for a request and in a way. -/
def EnteredAt (h : History) (p i request : Nat) (way : Way) : Prop :=
  h[p]? = some (.entered i request p way)

/-- A cache is not cleared between two places of the history. -/
def ClearFree (h : History) (i p q : Nat) : Prop :=
  ∀ c, p < c → c < q → h[c]? ≠ some (.cleared i)

/-- A result has been stored at a place, and the cache has not been cleared from then up to another. -/
structure HeldFrom (h : History) (i : Nat) (result : Stored) (p q : Nat) : Prop where
  stored : StoredAt h p i result
  before : p < q
  clearFree : ClearFree h i p q

/-! ### Places -/

theorem take_succ {h : History} {p : Nat} {e : Event} (here : h[p]? = some e) :
    h.take (p + 1) = h.take p ++ [e] := by
  rw [List.take_add_one, here]
  rfl

theorem lt_length {h : History} {p : Nat} {e : Event} (here : h[p]? = some e) : p < h.length :=
  (List.getElem?_eq_some_iff.mp here).1

/-- Every place before the end of a history has an event. -/
theorem exists_event {h : History} {p : Nat} (inside : p < h.length) : ∃ e, h[p]? = some e :=
  ⟨h[p], List.getElem?_eq_getElem inside⟩

theorem getElem?_of_take {h : History} {p q : Nat} {e : Event} (here : (h.take q)[p]? = some e) :
    h[p]? = some e := by
  rw [List.getElem?_take] at here
  split at here
  · exact here
  · cases here

theorem ClearFree.mono {h : History} {i p q p' q' : Nat} (free : ClearFree h i p q) (left : p ≤ p')
    (right : q' ≤ q) : ClearFree h i p' q' :=
  fun c after before => free c (Nat.lt_of_le_of_lt left after) (Nat.lt_of_lt_of_le before right)

/-- Two stretches without a clear make up one if no clear stands where they meet. -/
theorem ClearFree.join {h : History} {i p q r : Nat} (first : ClearFree h i p q)
    (second : ClearFree h i q r) (between : h[q]? ≠ some (.cleared i)) : ClearFree h i p r := by
  intro c after before
  rcases Nat.lt_trichotomy c q with early | rfl | late
  · exact first c after early
  · exact between
  · exact second c late before

/-! ### One more event -/

@[simp] theorem contents_nil (i : Nat) : contents i [] = none := rfl

@[simp] theorem contents_append (i : Nat) (h : History) (e : Event) :
    contents i (h ++ [e]) = e.contentsAfter i (contents i h) := by
  simp [contents]

@[simp] theorem clears_append (i : Nat) (h : History) (e : Event) :
    clears i (h ++ [e]) = clears i h + if e.clears i then 1 else 0 := by
  simp [clears, List.countP_append, List.countP_singleton]

@[simp] theorem current_nil (i : Nat) (lane : Lane) : current i lane [] = none := rfl

@[simp] theorem current_append (i : Nat) (lane : Lane) (h : History) (e : Event) :
    current i lane (h ++ [e]) = e.currentAfter i lane (current i lane h) := by
  simp [current]

theorem clears_iff {e : Event} {i : Nat} : e.clears i = true ↔ e = .cleared i := by
  cases e <;> simp [Event.clears]

theorem kept?_eq_some {e : Event} {i : Nat} {result : Stored} :
    e.kept? i = some result ↔
      ∃ request way answer,
        e = .answered i request (.fetched way result.stamp (.ok result.children) true) answer := by
  constructor
  · intro kept
    unfold Event.kept? at kept
    split at kept
    · split at kept
      · next same =>
          cases kept
          subst same
          exact ⟨_, _, _, rfl⟩
      · cases kept
    · cases kept
  · rintro ⟨request, way, answer, rfl⟩
    simp [Event.kept?]

theorem storedAt_iff {h : History} {p i : Nat} {result : Stored} :
    StoredAt h p i result ↔ ∃ e, h[p]? = some e ∧ e.kept? i = some result := by
  constructor
  · rintro ⟨request, way, answer, here⟩
    exact ⟨_, here, kept?_eq_some.mpr ⟨_, _, _, rfl⟩⟩
  · rintro ⟨e, here, kept⟩
    obtain ⟨request, way, answer, rfl⟩ := kept?_eq_some.mp kept
    exact ⟨_, _, _, here⟩

theorem StoredAt.lt_length {h : History} {p i : Nat} {result : Stored} (stored : StoredAt h p i result) :
    p < h.length := by
  obtain ⟨_, _, _, here⟩ := stored
  exact Replay.lt_length here

/-- What is stored at a place is held right behind it. -/
theorem StoredAt.contents {h : History} {p i : Nat} {result : Stored} (stored : StoredAt h p i result) :
    contents i (h.take (p + 1)) = some result := by
  obtain ⟨e, here, kept⟩ := storedAt_iff.mp stored
  have notClear : e.clears i = false := by
    obtain ⟨_, _, _, rfl⟩ := kept?_eq_some.mp kept
    rfl
  rw [take_succ here, contents_append]
  simp [Event.contentsAfter, notClear, kept]

theorem HeldFrom.earlier {h : History} {i p q x : Nat} {result : Stored} (held : HeldFrom h i result p q)
    (after : p < x) (within : x ≤ q) : HeldFrom h i result p x :=
  ⟨held.stored, after, held.clearFree.mono (Nat.le_refl p) within⟩

/-- A stretch without a clear up to the place where a result was stored goes on while that is held. -/
theorem ClearFree.through {h : History} {i f p q : Nat} {result : Stored} (free : ClearFree h i f p)
    (held : HeldFrom h i result p q) : ClearFree h i f q := by
  apply free.join held.clearFree
  obtain ⟨_, _, _, here⟩ := held.stored
  rw [here]
  simp

/-! ### The events behind a replay -/

/-- Between two clears a cache that holds children goes on holding some. -/
theorem isSome_contents {h : History} {i p q : Nat} (ordered : p ≤ q) (inside : q ≤ h.length)
    (held : (contents i (h.take p)).isSome) (free : ∀ c, p ≤ c → c < q → h[c]? ≠ some (.cleared i)) :
    (contents i (h.take q)).isSome := by
  induction ordered with
  | refl => exact held
  | @step q ordered hypothesis =>
      obtain ⟨e, here⟩ := exists_event (Nat.lt_of_succ_le inside)
      have before := hypothesis (Nat.le_of_succ_le inside)
        fun c after early => free c after (Nat.lt_succ_of_lt early)
      have notClear : ¬ e.clears i = true := by
        intro clear
        rw [clears_iff.mp clear] at here
        exact free q ordered (Nat.lt_succ_self q) here
      rw [take_succ here, contents_append, Event.contentsAfter, if_neg notClear]
      cases e.kept? i with
      | none => simpa using before
      | some result => rfl

/-- While a result has been stored and no clear has followed, the cache holds children. -/
theorem HeldFrom.isSome_contents {h : History} {i p q : Nat} {result : Stored}
    (held : HeldFrom h i result p q) (inside : q ≤ h.length) : (contents i (h.take q)).isSome := by
  apply Replay.isSome_contents (Nat.succ_le_of_lt held.before) inside
  · rw [held.stored.contents]
    rfl
  · intro c after before
    exact held.clearFree c (Nat.lt_of_succ_le after) before

/-- While a result has been stored and no clear has followed, the cache is not empty. -/
theorem HeldFrom.not_empty {h : History} {i p q : Nat} {result : Stored} (held : HeldFrom h i result p q)
    (inside : q ≤ h.length) : contents i (h.take q) ≠ none := by
  have some := held.isSome_contents inside
  intro empty
  rw [empty] at some
  cases some

/-- What a cache holds was stored once, and since then the cache was neither cleared nor filled anew. -/
theorem contents_origin {h : History} {i q : Nat} {result : Stored} (inside : q ≤ h.length)
    (holds : contents i (h.take q) = some result) :
    ∃ p, HeldFrom h i result p q ∧ ∀ x other, p < x → x < q → ¬ StoredAt h x i other := by
  induction q with
  | zero => simp at holds
  | succ q hypothesis =>
      obtain ⟨e, here⟩ := exists_event (Nat.lt_of_succ_le inside)
      rw [take_succ here, contents_append, Event.contentsAfter] at holds
      split at holds
      · cases holds
      next notClear =>
      have stays : h[q]? ≠ some (.cleared i) := by
        rw [here]
        exact fun clear => notClear (clears_iff.mpr (Option.some.inj clear))
      -- Either the last event stored what is held, or it was held before.
      cases kept : e.kept? i with
      | some stored =>
          rw [kept, Option.some_or] at holds
          cases holds
          refine ⟨q, ⟨storedAt_iff.mpr ⟨e, here, kept⟩, Nat.lt_succ_self q, ?_⟩, ?_⟩
          · exact fun c after early => by omega
          · exact fun x _ after early => by omega
      | none =>
          rw [kept, Option.none_or] at holds
          obtain ⟨p, held, latest⟩ := hypothesis (Nat.le_of_succ_le inside) holds
          have joined := held.clearFree.join (r := q + 1) (fun c after early => by omega) stays
          refine ⟨p, ⟨held.stored, Nat.lt_succ_of_lt held.before, joined⟩, ?_⟩
          intro x other after early stored
          rcases Nat.lt_succ_iff_lt_or_eq.mp early with earlier | rfl
          · exact latest x other after earlier stored
          · obtain ⟨_, here', kept'⟩ := storedAt_iff.mp stored
            rw [here] at here'
            cases here'
            rw [kept] at kept'
            cases kept'

/-- A result that was stored is still held if the cache was neither cleared nor filled anew since. -/
theorem HeldFrom.contents_eq {h : History} {i p q : Nat} {result : Stored}
    (held : HeldFrom h i result p q) (inside : q ≤ h.length)
    (latest : ∀ x other, p < x → x < q → ¬ StoredAt h x i other) :
    contents i (h.take q) = some result := by
  obtain ⟨other, holds⟩ := Option.isSome_iff_exists.mp (held.isSome_contents inside)
  obtain ⟨p', held', latest'⟩ := contents_origin inside holds
  rcases Nat.lt_trichotomy p p' with after | rfl | before
  · exact absurd held'.stored (latest p' other after held'.before)
  · obtain ⟨_, here, kept⟩ := storedAt_iff.mp held.stored
    obtain ⟨_, here', kept'⟩ := storedAt_iff.mp held'.stored
    rw [here] at here'
    cases here'
    rw [kept] at kept'
    cases kept'
    exact holds
  · exact absurd held.stored (latest' p result before held.before)

/-- What is entered at a place is entered for one request and in one way. -/
theorem EnteredAt.unique {h : History} {i p request request' : Nat} {way way' : Way}
    (entered : EnteredAt h p i request way) (entered' : EnteredAt h p i request' way') :
    request = request' ∧ way = way' := by
  obtain ⟨_, same, _, way⟩ := Event.entered.inj (Option.some.inj (entered.symm.trans entered'))
  exact ⟨same, way⟩

theorem clears_take_add_drop (i : Nat) (h : History) (f : Nat) :
    clears i (h.take f) + clears i (h.drop f) = clears i h := by
  rw [clears, clears, clears, ← List.countP_append, List.take_append_drop]

/-- The number of clears tells whether there was one since some place. -/
theorem clears_take_eq_iff {h : History} {i f : Nat} :
    clears i (h.take f) = clears i h ↔ ∀ c, f ≤ c → h[c]? ≠ some (.cleared i) := by
  have parts := clears_take_add_drop i h f
  have none_iff : clears i (h.drop f) = 0 ↔ ∀ c, f ≤ c → h[c]? ≠ some (.cleared i) := by
    rw [clears, List.countP_eq_zero]
    constructor
    · intro free c after here
      apply free (.cleared i)
      · apply List.mem_of_getElem? (i := c - f)
        rw [List.getElem?_drop, Nat.add_sub_cancel' after]
        exact here
      · exact clears_iff.mpr rfl
    · intro free e member clear
      obtain ⟨k, here⟩ := List.mem_iff_getElem?.mp member
      rw [List.getElem?_drop, clears_iff.mp clear] at here
      exact free (f + k) (Nat.le_add_right f k) here
  rw [← none_iff]
  omega

/-- A fetch in progress was entered once, and has been in progress ever since. -/
theorem current_origin {h : History} {i q f : Nat} {lane : Lane} (inside : q ≤ h.length)
    (running : current i lane (h.take q) = some f) :
    ∃ p request way, p < q ∧ h[p]? = some (.entered i request f way) ∧ way.lane = lane ∧
      ∀ x, p < x → x ≤ q → current i lane (h.take x) = some f := by
  induction q with
  | zero => simp at running
  | succ q hypothesis =>
      obtain ⟨e, here⟩ := exists_event (Nat.lt_of_succ_le inside)
      have now := running
      rw [take_succ here, current_append] at running
      by_cases enters : ∃ request way, e = .entered i request f way ∧ way.lane = lane
      · obtain ⟨request, way, rfl, same⟩ := enters
        refine ⟨q, request, way, Nat.lt_succ_self q, here, same, ?_⟩
        intro x after within
        rw [Nat.le_antisymm within after]
        exact now
      · -- An event that does not enter the fetch can only leave it in progress.
        have before : current i lane (h.take q) = some f := by
          unfold Event.currentAfter at running
          grind
        obtain ⟨p, request, way, early, entered, same, since⟩ :=
          hypothesis (Nat.le_of_succ_le inside) before
        refine ⟨p, request, way, Nat.lt_succ_of_lt early, entered, same, ?_⟩
        intro x after within
        rcases Nat.le_succ_iff.mp within with earlier | rfl
        · exact since x after earlier
        · exact now

/-- A fetch is in progress right behind the place where it was entered. -/
theorem current_of_entered {h : History} {i request f : Nat} {way : Way}
    (here : h[f]? = some (.entered i request f way)) : current i way.lane (h.take (f + 1)) = some f := by
  rw [take_succ here, current_append]
  simp [Event.currentAfter]

/-- No fetch of a lane is in progress right behind the end of one. -/
theorem current_of_ended {h : History} {i e request f : Nat} {way : Way}
    {outcome : Except Failure (List Child)} {kept : Bool} {answer : Except Failure Stored}
    (here : h[e]? = some (.answered i request (.fetched way f outcome kept) answer)) :
    current i way.lane (h.take (e + 1)) = none := by
  rw [take_succ here, current_append]
  simp [Event.currentAfter]

end Replay

end Syscat
