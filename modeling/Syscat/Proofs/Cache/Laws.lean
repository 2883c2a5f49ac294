/-
Module: Syscat.Proofs.Cache.Laws
Purpose: What may happen to caches after a history. A history is lawful if each of its events was
  permitted by the events before it; everything that is promised about answers and stored results follows
  from that alone.
Main exports: Permitted, Lawful, Lawful.append, Lawful.stored, Lawful.not_entered, Lawful.no_direct_fetch,
  Lawful.stored_again, Lawful.ended_once, Lawful.clearFree_of_contents
-/
import Syscat.Proofs.Cache.Replay
import Syscat.Proofs.Spelling

namespace Syscat.Replay

/-- A request comes now, or has been waiting since it came. -/
def Requested (h : History) (i request : Nat) : Prop :=
  request = h.length ∨ h[request]? = some (.queued i)

/-- How a request is answered after the fetch that was made for it. It gets what the fetch gave unless the
holder of the children cannot be named. -/
inductive Answers (holder : CacheHolder) (fetch : Nat) :
    Except Failure (List Child) → Except Failure Stored → Prop where
  | given (children : List Child) (named : holder.isNamed = true) :
      Answers holder fetch (.ok children) (.ok ⟨fetch, children⟩)
  | withheld (children : List Child) (unnamed : holder.isNamed = false) :
      Answers holder fetch (.ok children) (.error .longInteger)
  | failed (failure reported : Failure) : Answers holder fetch (.error failure) (.error reported)

section
variable {holder : CacheHolder} {fetch : Nat} {children : List Child} {answer : Except Failure Stored}

theorem Answers.eq_ok (answers : Answers holder fetch (.ok children) answer)
    (named : holder.isNamed = true) : answer = .ok ⟨fetch, children⟩ := by
  cases answers with
  | given => rfl
  | withheld _ unnamed =>
      rw [named] at unnamed
      cases unnamed

theorem Answers.eq_longInteger (answers : Answers holder fetch (.ok children) answer)
    (unnamed : holder.isNamed = false) : answer = .error .longInteger := by
  cases answers with
  | given _ named =>
      rw [unnamed] at named
      cases named
  | withheld => rfl

end

/-- An integer too long to be printed, as an object that children are fetched for. -/
def longHolder : CacheHolder := .ofValue (.integer Value.leastLong)

/-- It cannot be named. -/
theorem text?_longHolder : longHolder.name.text? = none := by
  have itself : longHolder = .other (.integer Value.leastLong) := by
    rw [longHolder, CacheHolder.ofValue, Value.literal?_leastLong]
  rw [itself]
  exact Value.text?_leastLong

theorem isNamed_longHolder : longHolder.isNamed = false := by
  rw [CacheHolder.isNamed, text?_longHolder]
  rfl

/-- What the entry of a fetch has to agree with: its number is its place, it is for a request, and the
cache is empty. No fetch of its lane is in progress, and no direct one. -/
structure EntryPermitted (h : History) (i request : Nat) (fetch : Nat) (way : Way) : Prop where
  number : fetch = h.length
  requested : Requested h i request
  empty : contents i h = none
  free : current i way.lane h = none
  idle : current i .direct h = none

/-- What the end of a fetch has to agree with: the fetch is the one in progress in its lane, no direct
fetch is in progress besides, and what it gave is kept exactly if there was no clear since it began. -/
structure EndPermitted (holder : CacheHolder) (h : History) (i request : Nat) (way : Way) (fetch : Nat)
    (outcome : Except Failure (List Child)) (kept : Bool) (answer : Except Failure Stored) : Prop where
  entered : h[fetch]? = some (.entered i request fetch way)
  running : current i way.lane h = some fetch
  alone : ∀ other, current i .direct h = some other → other = fetch
  answers : Answers holder fetch outcome answer
  kept_iff : kept = true ↔ outcome.isOk = true ∧ ClearFree h i fetch h.length

/-- What may happen after a history of objects with some holders. -/
def Permitted (holders : List CacheHolder) (h : History) : Event → Prop
  | .began => True
  | .queued i => contents i h = none
  | .entered i request fetch way => EntryPermitted h i request fetch way
  | .answered i request .atHand answer =>
      Requested h i request ∧ ∃ result, contents i h = some result ∧ answer = .ok result
  | .answered i request .refused answer =>
      request = h.length ∧ contents i h = none ∧ ∃ failure, answer = .error failure
  | .answered i request (.fetched way fetch outcome kept) answer =>
      EndPermitted (holders.getD i default) h i request way fetch outcome kept answer
  | .withdrawn i request => h[request]? = some (.queued i)
  | .cleared _ => True
  | .peeked i populated => populated = (contents i h).isSome

/-- Whether an event is about one of the first objects, or about none. -/
def Event.Concerns (holders : List CacheHolder) (e : Event) : Prop :=
  ∀ i, e.object? = some i → i < holders.length

/-- Each event that concerns the first objects was permitted when it happened. -/
def Lawful (holders : List CacheHolder) (h : History) : Prop :=
  ∀ p e, h[p]? = some e → Event.Concerns holders e → Permitted holders (h.take p) e

theorem Lawful.nil (holders : List CacheHolder) : Lawful holders [] := by
  intro p e here
  simp at here

theorem Lawful.append {holders : List CacheHolder} {h : History} {e : Event} (lawful : Lawful holders h)
    (permitted : Event.Concerns holders e → Permitted holders h e) : Lawful holders (h ++ [e]) := by
  intro p e' here concerns
  rcases Nat.lt_trichotomy p h.length with early | rfl | late
  · rw [List.getElem?_append_left early] at here
    rw [List.take_append_of_le_length (Nat.le_of_lt early)]
    exact lawful p e' here concerns
  · rw [List.getElem?_append_right (Nat.le_refl _), Nat.sub_self] at here
    cases here
    rw [List.take_left]
    exact permitted concerns
  · have := lt_length here
    simp at this
    omega

section
variable {holders : List CacheHolder} {h : History} {i : Nat}

/-- The place where a request came is no later than its answer. -/
theorem Requested.le_of_take {p request : Nat} (requested : Requested (h.take p) i request) :
    request ≤ p := by
  rcases requested with here | waiting
  · rw [here, List.length_take]
    exact Nat.min_le_left _ _
  · have := lt_length waiting
    rw [List.length_take] at this
    omega

theorem Lawful.entered (lawful : Lawful holders h) (known : i < holders.length)
    {p request fetch : Nat} {way : Way} (here : h[p]? = some (.entered i request fetch way)) :
    fetch = p ∧ EntryPermitted (h.take p) i request fetch way := by
  have permitted : EntryPermitted (h.take p) i request fetch way :=
    lawful p _ here (by rintro j ⟨⟩; exact known)
  have place : (h.take p).length = p := List.length_take_of_le (Nat.le_of_lt (lt_length here))
  exact ⟨permitted.number.trans place, permitted⟩

theorem Lawful.ended (lawful : Lawful holders h) (known : i < holders.length) {p request fetch : Nat}
    {way : Way} {outcome : Except Failure (List Child)} {kept : Bool} {answer : Except Failure Stored}
    (here : h[p]? = some (.answered i request (.fetched way fetch outcome kept) answer)) :
    EndPermitted (holders.getD i default) (h.take p) i request way fetch outcome kept answer :=
  lawful p _ here (by rintro j ⟨⟩; exact known)

theorem Lawful.atHand (lawful : Lawful holders h) (known : i < holders.length) {p request : Nat}
    {answer : Except Failure Stored} (here : h[p]? = some (.answered i request .atHand answer)) :
    Requested (h.take p) i request ∧ ∃ result, contents i (h.take p) = some result ∧
      answer = .ok result :=
  lawful p _ here (by rintro j ⟨⟩; exact known)

theorem Lawful.refused (lawful : Lawful holders h) (known : i < holders.length) {p request : Nat}
    {answer : Except Failure Stored} (here : h[p]? = some (.answered i request .refused answer)) :
    contents i (h.take p) = none ∧ ∃ failure, answer = .error failure :=
  (lawful p _ here (by rintro j ⟨⟩; exact known)).2

theorem Lawful.queued (lawful : Lawful holders h) (known : i < holders.length) {p : Nat}
    (here : h[p]? = some (.queued i)) : contents i (h.take p) = none :=
  lawful p _ here (by rintro j ⟨⟩; exact known)

theorem Lawful.peeked (lawful : Lawful holders h) (known : i < holders.length) {p : Nat}
    {populated : Bool} (here : h[p]? = some (.peeked i populated)) :
    populated = (contents i (h.take p)).isSome :=
  lawful p _ here (by rintro j ⟨⟩; exact known)

theorem clearFree_of_take {f p : Nat} (free : ClearFree (h.take p) i f p) : ClearFree h i f p := by
  intro c after before clear
  apply free c after before
  rw [List.getElem?_take_of_lt before]
  exact clear

/-- A fetch in progress in a lane was entered at the place that is its number, and has been in progress
ever since. -/
theorem Lawful.running_since (lawful : Lawful holders h) (known : i < holders.length) {q f : Nat}
    {lane : Lane} (inside : q ≤ h.length) (running : current i lane (h.take q) = some f) :
    f < q ∧ (∃ request way, EnteredAt h f i request way ∧ way.lane = lane) ∧
      ∀ x, f < x → x ≤ q → current i lane (h.take x) = some f := by
  obtain ⟨p, request, way, early, here, same, since⟩ := current_origin inside running
  obtain ⟨rfl, _⟩ := lawful.entered known here
  exact ⟨early, ⟨request, way, here, same⟩, since⟩

/-- What a fetch gave is kept exactly if it gave something and there was no clear since it began. -/
theorem Lawful.kept_iff (lawful : Lawful holders h) (known : i < holders.length)
    {p request fetch : Nat} {way : Way} {outcome : Except Failure (List Child)} {kept : Bool}
    {answer : Except Failure Stored}
    (here : h[p]? = some (.answered i request (.fetched way fetch outcome kept) answer)) :
    kept = true ↔ outcome.isOk = true ∧ ClearFree h i fetch p := by
  rw [(lawful.ended known here).kept_iff, List.length_take_of_le (Nat.le_of_lt (lt_length here))]
  constructor
  · exact fun both => ⟨both.1, clearFree_of_take both.2⟩
  · exact fun both => ⟨both.1, fun c after before clear => both.2 c after before (getElem?_of_take clear)⟩

/-- A fetch that ends was entered before, for the same request and in the same way. -/
theorem Lawful.entered_of_ended (lawful : Lawful holders h) (known : i < holders.length)
    {p request fetch : Nat} {way : Way} {outcome : Except Failure (List Child)} {kept : Bool}
    {answer : Except Failure Stored}
    (here : h[p]? = some (.answered i request (.fetched way fetch outcome kept) answer)) :
    EnteredAt h fetch i request way ∧ fetch < p := by
  have ended := lawful.ended known here
  have inside := Nat.le_of_lt (lt_length here)
  exact ⟨getElem?_of_take ended.entered, (lawful.running_since known inside ended.running).1⟩

/-- A fetch ends once. -/
theorem Lawful.ended_once (lawful : Lawful holders h) (known : i < holders.length)
    {p q request request' fetch : Nat} {way way' : Way}
    {outcome outcome' : Except Failure (List Child)} {kept kept' : Bool}
    {answer answer' : Except Failure Stored}
    (here : h[p]? = some (.answered i request (.fetched way fetch outcome kept) answer))
    (again : h[q]? = some (.answered i request' (.fetched way' fetch outcome' kept') answer')) :
    p = q := by
  obtain ⟨entered, early⟩ := lawful.entered_of_ended known here
  obtain ⟨entered', early'⟩ := lawful.entered_of_ended known again
  obtain ⟨_, same⟩ := entered.unique entered'
  have running := (lawful.ended known here).running
  have running' := (lawful.ended known again).running
  rcases Nat.lt_trichotomy p q with first | equal | second
  · obtain ⟨_, _, since⟩ := lawful.running_since known (Nat.le_of_lt (lt_length again)) running'
    have still := since (p + 1) (Nat.lt_succ_of_lt early) first
    rw [← same, current_of_ended here] at still
    cases still
  · exact equal
  · obtain ⟨_, _, since⟩ := lawful.running_since known (Nat.le_of_lt (lt_length here)) running
    have still := since (q + 1) (Nat.lt_succ_of_lt early') second
    rw [same, current_of_ended again] at still
    cases still

/-! ### Stored results -/

/-- What is stored comes from a fetch that was in progress up to then, and during which the cache was not
cleared. No other direct fetch was in progress. -/
theorem Lawful.stored (lawful : Lawful holders h) (known : i < holders.length) {p : Nat} {result : Stored}
    (stored : StoredAt h p i result) :
    ∃ request way, EnteredAt h result.stamp i request way ∧ result.stamp < p ∧
      ClearFree h i result.stamp p ∧ current i way.lane (h.take p) = some result.stamp ∧
      (∀ other, current i .direct (h.take p) = some other → other = result.stamp) ∧
      current i way.lane (h.take (p + 1)) = none := by
  obtain ⟨request, way, answer, here⟩ := stored
  have ended := lawful.ended known here
  obtain ⟨entered, early⟩ := lawful.entered_of_ended known here
  have free := ((lawful.kept_iff known here).mp rfl).2
  exact ⟨request, way, entered, early, free, ended.running, ended.alone, current_of_ended here⟩

/-- A result is stored once. -/
theorem Lawful.stored_once (lawful : Lawful holders h) (known : i < holders.length) {p p' : Nat}
    {result : Stored} (stored : StoredAt h p i result) (stored' : StoredAt h p' i result) :
    p = p' := by
  obtain ⟨_, _, _, here⟩ := stored
  obtain ⟨_, _, _, here'⟩ := stored'
  exact lawful.ended_once known here here'

/-- No fetch is entered while children are held. -/
theorem Lawful.not_entered (lawful : Lawful holders h) (known : i < holders.length)
    {p q request fetch : Nat} {way : Way} {result : Stored} (held : HeldFrom h i result p q) :
    h[q]? ≠ some (.entered i request fetch way) :=
  fun here => held.not_empty (Nat.le_of_lt (lt_length here)) (lawful.entered known here).2.empty

/-- No request has to wait while a result is held. -/
theorem Lawful.not_queued (lawful : Lawful holders h) (known : i < holders.length) {p q : Nat}
    {result : Stored} (held : HeldFrom h i result p q) : h[q]? ≠ some (.queued i) :=
  fun here => held.not_empty (Nat.le_of_lt (lt_length here)) (lawful.queued known here)

/-- While a cache contains a result, a request is answered with it, or with what a fetch gave that was
made for the request. -/
theorem Lawful.answered_of_contents (lawful : Lawful holders h) (known : i < holders.length)
    {q request : Nat} {result : Stored} {source : Source} {answer : Except Failure Stored}
    (contained : contents i (h.take q) = some result)
    (here : h[q]? = some (.answered i request source answer)) :
    (source = .atHand ∧ answer = .ok result) ∨
      ∃ way fetch outcome kept, source = .fetched way fetch outcome kept := by
  cases source with
  | atHand =>
      obtain ⟨_, found, there, rfl⟩ := lawful.atHand known here
      rw [contained] at there
      cases there
      exact Or.inl ⟨rfl, rfl⟩
  | refused =>
      have empty := (lawful.refused known here).1
      rw [contained] at empty
      cases empty
  | fetched way fetch outcome kept => exact Or.inr ⟨way, fetch, outcome, kept, rfl⟩

/-- A fetch that is in progress while children are held was entered before they were stored. -/
theorem Lawful.entered_before (lawful : Lawful holders h) (known : i < holders.length)
    {p q request fetch : Nat} {way : Way} {result : Stored} (held : HeldFrom h i result p q)
    (entered : EnteredAt h fetch i request way) (early : fetch < q) : fetch < p := by
  rcases Nat.lt_trichotomy fetch p with before | same | after
  · exact before
  · obtain ⟨_, _, _, here⟩ := held.stored
    rw [← same, entered] at here
    cases here
  · exact absurd entered (lawful.not_entered known (held.earlier after (Nat.le_of_lt early)))

/-- A fetch that is in progress while children are held was so before and behind the place where they
were stored. -/
theorem Lawful.running_around (lawful : Lawful holders h) (known : i < holders.length)
    {p q fetch : Nat} {lane : Lane} {result : Stored} (held : HeldFrom h i result p q)
    (inside : q ≤ h.length) (running : current i lane (h.take q) = some fetch) :
    fetch < p ∧ current i lane (h.take p) = some fetch ∧
      current i lane (h.take (p + 1)) = some fetch := by
  obtain ⟨early, ⟨request, way, entered, _⟩, since⟩ := lawful.running_since known inside running
  have before := lawful.entered_before known held entered early
  exact ⟨before, since p before (Nat.le_of_lt held.before),
    since (p + 1) (Nat.lt_succ_of_lt before) held.before⟩

/-- No direct fetch is in progress while children are held. It would have been alone when they were
stored, and so be the one that ended there. -/
theorem Lawful.no_direct_fetch (lawful : Lawful holders h) (known : i < holders.length) {p q : Nat}
    {result : Stored} (held : HeldFrom h i result p q) (inside : q ≤ h.length) :
    current i .direct (h.take q) = none := by
  cases running : current i .direct (h.take q) with
  | none => rfl
  | some fetch =>
      obtain ⟨_, before, still⟩ := lawful.running_around known held inside running
      obtain ⟨_, ⟨_, way, entered, lane⟩, _⟩ :=
        lawful.running_since known (Nat.le_of_lt held.stored.lt_length) before
      obtain ⟨_, keeper, keeperEntered, _, _, _, alone, gone⟩ := lawful.stored known held.stored
      obtain rfl := alone fetch before
      obtain ⟨_, rfl⟩ := entered.unique keeperEntered
      rw [← lane, gone] at still
      cases still

/-- A result that was stored earlier and one that is stored in its place, without a clear between: the
fetch behind the later one was a task's, and was in progress already when the earlier one was stored. -/
theorem Lawful.stored_again (lawful : Lawful holders h) (known : i < holders.length) {p q : Nat}
    {first second : Stored} (held : HeldFrom h i first p q) (again : StoredAt h q i second) :
    ∃ request me, EnteredAt h second.stamp i request (.task me) ∧ second.stamp < p := by
  obtain ⟨request, way, entered, early, _, running, _, _⟩ := lawful.stored known again
  have before := lawful.entered_before known held entered early
  cases way with
  | task me => exact ⟨request, me, entered, before⟩
  | direct =>
      have idle := lawful.no_direct_fetch known held (Nat.le_of_lt again.lt_length)
      rw [Way.lane, idle] at running
      cases running

/-- The cache has not been cleared since the beginning of the fetch that gave what it holds. -/
theorem Lawful.clearFree_of_contents (lawful : Lawful holders h) (known : i < holders.length)
    {q : Nat} {result : Stored} (inside : q ≤ h.length) (holds : contents i (h.take q) = some result) :
    ClearFree h i result.stamp q := by
  obtain ⟨p, held, _⟩ := contents_origin inside holds
  obtain ⟨_, _, _, _, free, _⟩ := lawful.stored known held.stored
  exact free.through held

end

end Syscat.Replay
