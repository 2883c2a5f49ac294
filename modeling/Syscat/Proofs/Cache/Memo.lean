/-
Module: Syscat.Proofs.Cache.Memo
Purpose: What a single caller can rely on: between two clears a cache is filled once at most, and from
  then on it answers all requests, those from inside fetches included.
Main exports: Memoizes, memoizes_steps
-/
import Syscat.Proofs.Cache.Fetching

namespace Syscat.Replay

/-- The cache of an object is a memo, in what has happened so far and in what happens next. -/
structure Memoizes (s : Session) (i : Nat) : Prop where
  /-- Between two results that were stored the cache was cleared. -/
  storedOnce : ∀ {p q first second}, StoredAt s.history p i first → StoredAt s.history q i second →
    p < q → ∃ c, p < c ∧ c < q ∧ s.history[c]? = some (.cleared i)
  /-- While a result was held, each request was answered with it. -/
  answered : ∀ {p q result request source answer}, HeldFrom s.history i result p q →
    s.history[q]? = some (.answered i request source answer) → source = .atHand ∧ answer = .ok result
  /-- While a result was held, no fetch was entered. -/
  spared : ∀ {p q result request fetch way}, HeldFrom s.history i result p q →
    s.history[q]? ≠ some (.entered i request fetch way)
  /-- The children were seen to be at hand exactly while a result was held. -/
  seen : ∀ {q populated}, s.history[q]? = some (.peeked i populated) →
    (populated = true ↔ ∃ result p, HeldFrom s.history i result p q)
  /-- The cache has in its slot what is held now. -/
  holds : ∀ {result}, (s.object i).cache.stored = some result ↔ ∃ p, HeldFrom s.history i result p s.now
  /-- The children are at hand exactly if a result is held now. -/
  populated : s.isPopulated i = true ↔ ∃ result p, HeldFrom s.history i result p s.now
  /-- If a result is held now, the next request gets it, and its fetch is not called. -/
  get : ∀ {result p}, HeldFrom s.history i result p s.now → ∀ fetch,
    s.get i fetch = (.ok result, s.record (.answered i s.now .atHand (.ok result)))
  /-- A clear leaves nothing at hand. -/
  clear : (s.clear i).1 = .ok () ∧ (s.clear i).2.history = s.history ++ [.cleared i] ∧
    (s.clear i).2.isPopulated i = false

section
variable {holders : List CacheHolder} {s : Session} {i : Nat}

/-! ### Histories without tasks -/

/-- Nothing in a history is the doing of a task. -/
def Direct (h : History) : Prop :=
  ∀ e ∈ h, ¬ Event.ByTask e

theorem Direct.not_task {h : History} (direct : Direct h) {p j request fetch me : Nat} :
    h[p]? ≠ some (.entered j request fetch (.task me)) :=
  fun entered => direct _ (List.mem_of_getElem? entered) rfl

/-- Without tasks nothing is stored in the place of a result that is held. -/
theorem Lawful.not_stored_again {h : History} (lawful : Lawful holders h) (direct : Direct h)
    (known : i < holders.length) {p q : Nat} {first second : Stored} (held : HeldFrom h i first p q) :
    ¬ StoredAt h q i second := by
  intro again
  obtain ⟨_, _, entered, _⟩ := lawful.stored_again known held again
  exact direct.not_task entered

/-- Without tasks a result that is held is what the cache contains. -/
theorem HeldFrom.contents_of_direct {h : History} (lawful : Lawful holders h) (direct : Direct h)
    (known : i < holders.length) {p q : Nat} {result : Stored} (held : HeldFrom h i result p q)
    (inside : q ≤ h.length) : contents i (h.take q) = some result := by
  apply held.contents_eq inside
  intro x other after early
  exact lawful.not_stored_again direct known (held.earlier after (Nat.le_of_lt early))

/-- Without tasks a cache contains exactly what is held. -/
theorem contents_iff_of_direct {h : History} (lawful : Lawful holders h) (direct : Direct h)
    (known : i < holders.length) {q : Nat} (inside : q ≤ h.length) {result : Stored} :
    contents i (h.take q) = some result ↔ ∃ p, HeldFrom h i result p q := by
  constructor
  · intro contained
    obtain ⟨p, held, _⟩ := contents_origin inside contained
    exact ⟨p, held⟩
  · rintro ⟨p, held⟩
    exact held.contents_of_direct lawful direct known inside

/-- Something is at hand exactly if something is held. -/
theorem isSome_contents_iff {h : History} {q : Nat} (inside : q ≤ h.length) :
    (contents i (h.take q)).isSome = true ↔ ∃ result p, HeldFrom h i result p q := by
  constructor
  · intro some
    obtain ⟨result, contained⟩ := Option.isSome_iff_exists.mp some
    obtain ⟨p, held, _⟩ := contents_origin inside contained
    exact ⟨result, p, held⟩
  · rintro ⟨result, p, held⟩
    exact held.isSome_contents inside

/-- Without tasks each request that is answered while a result is held gets that result. -/
theorem Lawful.answered_of_direct {h : History} (lawful : Lawful holders h) (direct : Direct h)
    (known : i < holders.length) {p q request : Nat} {result : Stored} {source : Source}
    {answer : Except Failure Stored} (held : HeldFrom h i result p q)
    (here : h[q]? = some (.answered i request source answer)) :
    source = .atHand ∧ answer = .ok result := by
  have inside := Nat.le_of_lt (lt_length here)
  have contained := held.contents_of_direct lawful direct known inside
  rcases lawful.answered_of_contents known contained here with found | ⟨way, fetch, outcome, kept, rfl⟩
  · exact found
  · cases way with
    | direct =>
        have running := (lawful.ended known here).running
        rw [Way.lane, lawful.no_direct_fetch known held inside] at running
        cases running
    | task me => exact absurd (lawful.entered_of_ended known here).1 direct.not_task

/-! ### Runs of a single caller -/

/-- Requests that find children at hand are answered with them. -/
theorem get_of_stored {result : Stored} (stored : (s.object i).cache.stored = some result)
    (fetch : Fetch) :
    s.get i fetch = (.ok result, s.record (.answered i s.now .atHand (.ok result))) := by
  simp only [Session.get, Session.request, Session.directAnswer?_of_stored stored]

theorem clear_of_faithful (faithful : Faithful holders s) (known : i < holders.length) :
    s.clear i = (.ok (), (s.updateCache i .clear).record (.cleared i)) := by
  simp only [Session.clear, (faithful.caches i known).working]

theorem Faithful.memoizes (faithful : Faithful holders s) (direct : Direct s.history)
    (known : i < holders.length) : Memoizes s i := by
  have present := Nat.lt_of_lt_of_le known faithful.present
  have whole : s.history.take s.now = s.history := List.take_length
  have stored : (s.object i).cache.stored = contents i (s.history.take s.now) := by
    rw [whole, (faithful.caches i known).stored]
  have holds : ∀ {result}, (s.object i).cache.stored = some result ↔
      ∃ p, HeldFrom s.history i result p s.now := by
    intro result
    rw [stored]
    exact contents_iff_of_direct faithful.lawful direct known (Nat.le_refl _)
  constructor
  case storedOnce =>
    intro p q first second before after ordered
    apply Classical.byContradiction
    intro none
    refine faithful.lawful.not_stored_again direct known ⟨before, ordered, ?_⟩ after
    exact fun c above below clear => none ⟨c, above, below, clear⟩
  case answered => exact faithful.lawful.answered_of_direct direct known
  case spared => exact faithful.lawful.not_entered known
  case seen =>
    intro q populated here
    rw [faithful.lawful.peeked known here]
    exact isSome_contents_iff (Nat.le_of_lt (lt_length here))
  case holds => exact holds
  case populated =>
    rw [Session.isPopulated, ChildCache.isPopulated, stored]
    exact isSome_contents_iff (Nat.le_refl _)
  case get => exact fun held fetch => get_of_stored (holds.mpr ⟨_, held⟩) fetch
  case clear =>
    rw [clear_of_faithful faithful known]
    refine ⟨rfl, rfl, ?_⟩
    simp [Session.isPopulated, s.cache_updateCache _ present, ChildCache.clear, ChildCache.isPopulated]

/-- In every run of a single caller, whatever the fetches do on the way, each cache is a memo. -/
theorem memoizes_steps (holders : List CacheHolder) (steps : List Step) (known : i < holders.length) :
    Memoizes ((Session.start holders).steps steps) i := by
  obtain ⟨faithful, carried⟩ := Faithful.steps steps (Faithful.start holders)
  obtain ⟨rest, history, direct⟩ := carried.history
  refine faithful.memoizes ?_ known
  rw [history]
  exact direct

/-- A run in which the first fetch for an object requests the children of another one and then clears the
cache that it is for. Only the second fetch is stored, and it answers the third request. -/
def overtakenSteps : List Step :=
  let given := Fetch.finish (.ofExcept (.ok [.value (.integer 1)]))
  [.get 0 (.getThen 1 given false (.clearThen 0 given)), .get 0 given, .get 0 given]

theorem memoizes_overtakenSteps :
    let s := (Session.start [.other (.text "a"), .other (.text "b")]).steps overtakenSteps
    HeldFrom s.history 0 ⟨5, [.value (.integer 1)]⟩ 6 8 ∧ ∀ fetch : Fetch,
      (s.get 0 fetch).1 = .ok ⟨5, [.value (.integer 1)]⟩ := by
  intro s
  have held : HeldFrom s.history 0 ⟨5, [.value (.integer 1)]⟩ 6 8 := by
    refine ⟨⟨5, .direct, _, rfl⟩, by decide, ?_⟩
    intro c after before clear
    obtain rfl : c = 7 := by omega
    have answered : s.history[7]? = some (.answered 0 7 .atHand
      (.ok ⟨5, [.value (.integer 1)]⟩)) := rfl
    rw [answered] at clear
    cases clear
  have memo : Memoizes s 0 := memoizes_steps _ overtakenSteps (by decide)
  exact ⟨held, fun fetch => congrArg Prod.fst (memo.get held fetch)⟩

end

end Syscat.Replay
