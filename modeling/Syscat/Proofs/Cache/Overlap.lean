/-
Module: Syscat.Proofs.Cache.Overlap
Purpose: When the contents of a cache are stable although both ways of fetching are in use. Fetches of
  either way come one after the other, but a direct fetch may begin, end and be stored while a task's
  fetch is suspended. Nothing then holds the task's fetch back from being stored in its place, and this is
  the only way in which a result is lost before a clear.
Main exports: Overlaps, StableUnlessOverlapped, stableUnlessOverlapped_play, not_stable_play
-/
import Syscat.Proofs.Cache.Clearing

namespace Syscat.Replay

/-- A task's fetch that was entered before a place, and that no clear came between, is successful at a
later place. -/
def Overlaps (h : History) (i p x : Nat) (result : Stored) : Prop :=
  ∃ request me kept answer, h[x]? = some (.answered i request
      (.fetched (.task me) result.stamp (.ok result.children) kept) answer) ∧
    result.stamp < p ∧ ClearFree h i result.stamp p

/-- No fetch overlaps with what was stored at a place and ends before another place. -/
def Undisturbed (h : History) (i p q : Nat) : Prop :=
  ∀ x other, p < x → x < q → ¬ Overlaps h i p x other

/-- A result is held until the next clear, unless a task's fetch overlaps with it. -/
structure StableUnlessOverlapped (s : Session) (i : Nat) : Prop where
  /-- What is stored in the place of a result that is held is what overlaps with it. -/
  replaced : ∀ {p x : Nat} {first second : Stored}, HeldFrom s.history i first p x →
    (StoredAt s.history x i second ↔ Overlaps s.history i p x second)
  /-- What overlaps with a result is another one, and the result came from a direct fetch during it. -/
  overlapped : ∀ {p x : Nat} {first second : Stored}, HeldFrom s.history i first p x →
    Overlaps s.history i p x second →
    second.stamp < first.stamp ∧ ∃ request, EnteredAt s.history first.stamp i request .direct
  /-- The cache contains a result that is held exactly if nothing has overlapped with it. -/
  contained : ∀ {p q : Nat} {result : Stored}, HeldFrom s.history i result p q → q ≤ s.now →
    (contents i (s.history.take q) = some result ↔ Undisturbed s.history i p q)
  /-- The slot of the cache is what the history says. -/
  stored : (s.object i).cache.stored = contents i s.history
  /-- A request that comes while a result is held is answered at once. -/
  atOnce : ∀ {p q request : Nat} {result : Stored} {source : Source} {answer : Except Failure Stored},
    HeldFrom s.history i result p q → p < request →
    s.history[q]? = some (.answered i request source answer) → source = .atHand
  /-- A request that is answered at once gets the result that is held exactly if nothing has overlapped
  with it. -/
  answered : ∀ {p q request : Nat} {result : Stored} {answer : Except Failure Stored},
    HeldFrom s.history i result p q →
    s.history[q]? = some (.answered i request .atHand answer) →
    (answer = .ok result ↔ Undisturbed s.history i p q)
  /-- While a result is held, no fetch is entered and no request has to wait. -/
  spared : ∀ {p q : Nat} {result : Stored}, HeldFrom s.history i result p q →
    s.history[q]? ≠ some (.queued i) ∧ ∀ request way, ¬ EnteredAt s.history q i request way

section
variable {holders : List CacheHolder} {h : History} {i : Nat}

/-- A later result that is stored without a clear between comes from a fetch that overlaps. -/
theorem Lawful.overlaps_of_stored (lawful : Lawful holders h) (known : i < holders.length) {p x : Nat}
    {first second : Stored} (held : HeldFrom h i first p x) (again : StoredAt h x i second) :
    Overlaps h i p x second := by
  obtain ⟨_, me, entered, before⟩ := lawful.stored_again known held again
  obtain ⟨_, _, _, _, free, _⟩ := lawful.stored known again
  obtain ⟨request, way, answer, here⟩ := again
  obtain ⟨rfl, rfl⟩ := entered.unique (lawful.entered_of_ended known here).1
  exact ⟨_, me, true, answer, here, before, free.mono (Nat.le_refl _) (Nat.le_of_lt held.before)⟩

/-- A fetch that overlaps with a result that is held is stored. -/
theorem Lawful.stored_of_overlaps (lawful : Lawful holders h) (known : i < holders.length) {p x : Nat}
    {first second : Stored} (held : HeldFrom h i first p x) (overlaps : Overlaps h i p x second) :
    StoredAt h x i second := by
  obtain ⟨request, me, kept, answer, here, before, free⟩ := overlaps
  have taken : kept = true := (lawful.kept_iff known here).mpr ⟨rfl, free.through held⟩
  rw [taken] at here
  exact ⟨request, .task me, answer, here⟩

/-- What a task's fetch overlaps with was fetched directly while it was suspended. Had another task
fetched it, the lock would have kept the fetches apart. -/
theorem Lawful.direct_of_overlaps (lawful : Lawful holders h) (known : i < holders.length) {p x : Nat}
    {first second : Stored} (held : HeldFrom h i first p x) (overlaps : Overlaps h i p x second) :
    second.stamp < first.stamp ∧ ∃ request, EnteredAt h first.stamp i request .direct := by
  obtain ⟨_, me, _, _, here, before, _⟩ := overlaps
  have inside := Nat.le_of_lt (lt_length here)
  have later := (lawful.entered_of_ended known here).1
  obtain ⟨_, _, still⟩ := lawful.running_around known held inside (lawful.ended known here).running
  obtain ⟨request, way, entered, _, _, ending, _, gone⟩ := lawful.stored known held.stored
  cases way with
  | task other =>
      rw [Way.lane] at still gone
      rw [gone] at still
      cases still
  | direct =>
      refine ⟨?_, request, entered⟩
      rcases Nat.lt_trichotomy second.stamp first.stamp with within | same | outside
      · exact within
      · rw [same] at later
        cases (later.unique entered).2
      · -- No fetch of a task is entered while a direct one is in progress.
        have idle := (lawful.entered known later).2.idle
        obtain ⟨_, _, since⟩ := lawful.running_since known (Nat.le_of_lt held.stored.lt_length) ending
        have busy := since second.stamp outside (Nat.le_of_lt before)
        rw [Way.lane, idle] at busy
        cases busy

/-- A result that is held is what the cache contains exactly if no fetch has overlapped with it. -/
theorem Lawful.contents_iff_undisturbed (lawful : Lawful holders h) (known : i < holders.length)
    {p q : Nat} {result : Stored} (held : HeldFrom h i result p q) (inside : q ≤ h.length) :
    contents i (h.take q) = some result ↔ Undisturbed h i p q := by
  constructor
  · intro contained x other after early overlaps
    obtain ⟨p', held', latest⟩ := contents_origin inside contained
    obtain rfl := lawful.stored_once known held.stored held'.stored
    have heldThere := held.earlier after (Nat.le_of_lt early)
    exact latest x other after early (lawful.stored_of_overlaps known heldThere overlaps)
  · intro undisturbed
    apply held.contents_eq inside
    intro x other after early stored
    have heldThere := held.earlier after (Nat.le_of_lt early)
    exact undisturbed x other after early (lawful.overlaps_of_stored known heldThere stored)

/-- A request that comes while a result is held is answered at once: it is not refused, and no fetch is
entered for it. -/
theorem Lawful.atHand_of_held (lawful : Lawful holders h) (known : i < holders.length)
    {p q request : Nat} {result : Stored} {source : Source} {answer : Except Failure Stored}
    (held : HeldFrom h i result p q) (after : p < request)
    (here : h[q]? = some (.answered i request source answer)) : source = .atHand := by
  cases source with
  | atHand => rfl
  | refused =>
      exact absurd (lawful.refused known here).1 (held.not_empty (Nat.le_of_lt (lt_length here)))
  | fetched way fetch outcome kept =>
      obtain ⟨entered, early⟩ := lawful.entered_of_ended known here
      have before := lawful.entered_before known held entered early
      have requested := (lawful.entered known entered).2.requested.le_of_take
      omega

theorem Lawful.answered_iff_undisturbed (lawful : Lawful holders h) (known : i < holders.length)
    {p q request : Nat} {result : Stored} {answer : Except Failure Stored}
    (held : HeldFrom h i result p q) (here : h[q]? = some (.answered i request .atHand answer)) :
    answer = .ok result ↔ Undisturbed h i p q := by
  rw [← lawful.contents_iff_undisturbed known held (Nat.le_of_lt (lt_length here))]
  obtain ⟨_, found, contained, rfl⟩ := lawful.atHand known here
  rw [contained]
  simp

theorem Faithful.stableUnlessOverlapped {s : Session} (faithful : Faithful holders s)
    (known : i < holders.length) : StableUnlessOverlapped s i := by
  have lawful := faithful.lawful
  constructor
  case replaced =>
    intro p x first second held
    exact ⟨lawful.overlaps_of_stored known held, lawful.stored_of_overlaps known held⟩
  case overlapped => exact lawful.direct_of_overlaps known
  case contained => exact lawful.contents_iff_undisturbed known
  case stored => exact (faithful.caches i known).stored
  case atOnce => exact lawful.atHand_of_held known
  case answered => exact lawful.answered_iff_undisturbed known
  case spared =>
    intro p q result held
    exact ⟨lawful.not_queued known held, fun _ _ => lawful.not_entered known held⟩

end

/-- In every run of direct requests and tasks the contents of a cache are stable until it is cleared,
unless a task's fetch overlaps with them. -/
theorem stableUnlessOverlapped_play (holders : List CacheHolder) (phases : List Phase) {i : Nat}
    (known : i < holders.length) :
    StableUnlessOverlapped ((Session.start holders).play phases) i :=
  ((Quiet.start holders).play phases).faithful.stableUnlessOverlapped known

/-! ### An overlap -/

/-- A run in which a fetch of a task pauses while another task requests the same children directly. Both
fetches are successful. Then the children are requested once more. -/
def overlappedRun : List Phase :=
  let given (number : Int) : Logged (List Child) := .ofExcept (.ok [.value (.integer number)])
  let other := AsyncFetch.get 0 (.finish (given 2)) fun _ => .finish (given 3)
  [.round [.request 0 (.pause (.finish (given 1))), .perform other]
    [.go 0, .go 0, .go 1, .go 1, .go 1, .go 0, .go 0], .steps [.get 0 (.finish (given 4))]]

/-- In the overlapped run the result of the direct fetch is held from its end on. -/
theorem heldFrom_overlappedRun :
    HeldFrom ((Session.start [.other (.text "a")]).play overlappedRun).history 0
      ⟨2, [.value (.integer 2)]⟩ 3 5 := by
  refine ⟨⟨2, .direct, _, rfl⟩, by decide, ?_⟩
  intro c after before clear
  obtain rfl : c = 4 := by omega
  have ended : ((Session.start [.other (.text "a")]).play overlappedRun).history[4]? =
    some (.answered 0 1 (.fetched (.task 0) 1 (.ok [.value (.integer 1)]) true)
      (.ok ⟨1, [.value (.integer 1)]⟩)) := rfl
  rw [ended] at clear
  cases clear

/-- In the overlapped run the last request does not get the result that is held. -/
theorem answered_overlappedRun :
    ((Session.start [.other (.text "a")]).play overlappedRun).history[5]? =
      some (.answered 0 5 .atHand (.ok ⟨1, [.value (.integer 1)]⟩)) := rfl

theorem stableUnlessOverlapped_overlappedRun :
    ¬ Undisturbed ((Session.start [.other (.text "a")]).play overlappedRun).history 0 3 5 := by
  have stable := stableUnlessOverlapped_play [.other (.text "a")] overlappedRun (i := 0) (by decide)
  intro undisturbed
  have same := (stable.answered heldFrom_overlappedRun answered_overlappedRun).mpr undisturbed
  cases same

/-- Requests that come while a result is held are not always answered with it. -/
theorem not_stable_play : ¬ ∀ (holders : List CacheHolder) (phases : List Phase) (i : Nat),
    i < holders.length → ∀ (p q request : Nat) (result : Stored) (source : Source)
      (answer : Except Failure Stored),
      HeldFrom ((Session.start holders).play phases).history i result p q → p < request →
      ((Session.start holders).play phases).history[q]? = some (.answered i request source answer) →
      answer = .ok result := by
  intro stable
  have same := stable [.other (.text "a")] overlappedRun 0 (by decide) 3 5 5 _ _ _
    heldFrom_overlappedRun (by decide) answered_overlappedRun
  cases same

end Syscat.Replay
