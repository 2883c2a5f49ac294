/-
Module: Syscat.Proofs.Cache.Clearing
Purpose: What was fetched before a clear is forgotten with it, in every run of direct requests and tasks:
  later requests do not get it and the cache does not contain it. A fetch that is overtaken by a clear
  only serves the request that it was made for.
Main exports: Forgets, forgets_play, not_forall_handed
-/
import Syscat.Proofs.Cache.Loop

namespace Syscat.Replay

/-- A clear of the cache of an object has made it forget what came from earlier fetches. -/
structure Forgets (s : Session) (i : Nat) : Prop where
  /-- A request that came after a clear is not answered with what was fetched from before it on. -/
  answered : ∀ {c e request : Nat} {source : Source} {result : Stored},
    s.history[c]? = some (.cleared i) → c < request →
    s.history[e]? = some (.answered i request source (.ok result)) →
    c < result.stamp ∧ ∃ request' way, EnteredAt s.history result.stamp i request' way
  /-- After a clear the cache contains nothing that was fetched from before it on. -/
  contained : ∀ {c q : Nat} {result : Stored},
    s.history[c]? = some (.cleared i) → c < q → q ≤ s.now →
    contents i (s.history.take q) = some result →
    c < result.stamp ∧ ∃ request way, EnteredAt s.history result.stamp i request way
  /-- The slot of the cache is what the history says. -/
  stored : (s.object i).cache.stored = contents i s.history
  /-- Each fetch ends for the request that it was made for, overtaken or not. The request gets what the
  fetch gave if the holder of the children can be named, and else fails because it cannot. -/
  handed : ∀ {e request fetch : Nat} {way : Way} {children : List Child} {kept : Bool}
    {answer : Except Failure Stored},
    s.history[e]? = some (.answered i request (.fetched way fetch (.ok children) kept) answer) →
    EnteredAt s.history fetch i request way ∧
      ((s.object i).holder.isNamed = true → answer = .ok ⟨fetch, children⟩) ∧
      ((s.object i).holder.isNamed = false → answer = .error .longInteger)
  /-- The cache takes over what a fetch gave if it was not overtaken, and else stays as it was. -/
  taken : ∀ {e request fetch : Nat} {way : Way} {children : List Child} {kept : Bool}
    {answer : Except Failure Stored},
    s.history[e]? = some (.answered i request (.fetched way fetch (.ok children) kept) answer) →
    (ClearFree s.history i fetch e → contents i (s.history.take (e + 1)) = some ⟨fetch, children⟩) ∧
      (¬ ClearFree s.history i fetch e →
        contents i (s.history.take (e + 1)) = contents i (s.history.take e))

section
variable {holders : List CacheHolder} {h : History} {i : Nat}

/-- A fetch whose result outlasts a clear was entered after it. -/
theorem lt_of_clearFree {c p q request : Nat} {way : Way} (entered : EnteredAt h p i request way)
    (free : ClearFree h i p q) (cleared : h[c]? = some (.cleared i)) (before : c < q) : c < p := by
  rcases Nat.lt_trichotomy c p with early | rfl | late
  · exact early
  · rw [entered] at cleared
    cases cleared
  · exact absurd cleared (free c late before)

/-- What a cache contains comes from a fetch, and since that was entered there was no clear. -/
theorem Lawful.entered_of_contents (lawful : Lawful holders h) (known : i < holders.length) {q : Nat}
    {result : Stored} (inside : q ≤ h.length) (contained : contents i (h.take q) = some result) :
    ∃ request way, EnteredAt h result.stamp i request way := by
  obtain ⟨p, held, _⟩ := contents_origin inside contained
  obtain ⟨request, way, entered, _⟩ := lawful.stored known held.stored
  exact ⟨request, way, entered⟩

theorem Lawful.forgotten (lawful : Lawful holders h) (known : i < holders.length) {c q : Nat}
    {result : Stored} (cleared : h[c]? = some (.cleared i)) (before : c < q) (inside : q ≤ h.length)
    (contained : contents i (h.take q) = some result) :
    c < result.stamp ∧ ∃ request way, EnteredAt h result.stamp i request way := by
  obtain ⟨request, way, entered⟩ := lawful.entered_of_contents known inside contained
  have free := lawful.clearFree_of_contents known inside contained
  exact ⟨lt_of_clearFree entered free cleared before, request, way, entered⟩

/-- A request is answered with what a fetch gave that was entered for it or later, or with what the cache
contains then. -/
theorem Lawful.source (lawful : Lawful holders h) (known : i < holders.length) {e request : Nat}
    {source : Source} {result : Stored}
    (here : h[e]? = some (.answered i request source (.ok result))) :
    (request ≤ e ∧ contents i (h.take e) = some result) ∨
      (request ≤ result.stamp ∧ ∃ way, EnteredAt h result.stamp i request way) := by
  cases source with
  | atHand =>
      obtain ⟨requested, found, contained, same⟩ := lawful.atHand known here
      cases same
      exact Or.inl ⟨requested.le_of_take, contained⟩
  | refused =>
      obtain ⟨_, _, failed⟩ := lawful.refused known here
      cases failed
  | fetched way fetch outcome kept =>
      have entered := (lawful.entered_of_ended known here).1
      have requested := (lawful.entered known entered).2.requested
      cases (lawful.ended known here).answers with
      | given => exact Or.inr ⟨requested.le_of_take, way, entered⟩

/-- What the end of a fetch does to the cache. -/
theorem Lawful.taken (lawful : Lawful holders h) (known : i < holders.length) {e request fetch : Nat}
    {way : Way} {children : List Child} {kept : Bool} {answer : Except Failure Stored}
    (here : h[e]? = some (.answered i request (.fetched way fetch (.ok children) kept) answer)) :
    (ClearFree h i fetch e → contents i (h.take (e + 1)) = some ⟨fetch, children⟩) ∧
      (¬ ClearFree h i fetch e → contents i (h.take (e + 1)) = contents i (h.take e)) := by
  have keeps := lawful.kept_iff known here
  rw [take_succ here, contents_append]
  constructor
  · intro free
    have kept := keeps.mpr ⟨rfl, free⟩
    simp [Event.contentsAfter, Event.clears, Event.kept?, kept]
  · intro overtaken
    have dropped : kept = false := by
      apply Bool.eq_false_iff.mpr
      exact fun kept => overtaken (keeps.mp kept).2
    simp [Event.contentsAfter, Event.clears, Event.kept?, dropped]

end

theorem Faithful.forgets {holders : List CacheHolder} {s : Session} {i : Nat}
    (faithful : Faithful holders s) (known : i < holders.length) : Forgets s i := by
  have lawful := faithful.lawful
  constructor
  case answered =>
    intro c e request source result cleared after here
    rcases lawful.source known here with ⟨later, contained⟩ | ⟨later, way, entered⟩
    · exact lawful.forgotten known cleared (Nat.lt_of_lt_of_le after later)
        (Nat.le_of_lt (lt_length here)) contained
    · exact ⟨Nat.lt_of_lt_of_le after later, request, way, entered⟩
  case contained => exact lawful.forgotten known
  case stored => exact (faithful.caches i known).stored
  case handed =>
    intro e request fetch way children kept answer here
    have answers := (lawful.ended known here).answers
    rw [← faithful.holder i known] at answers
    exact ⟨(lawful.entered_of_ended known here).1, answers.eq_ok, answers.eq_longInteger⟩
  case taken => exact lawful.taken known

/-- In every run a clear makes a cache forget what came from earlier fetches. -/
theorem forgets_play (holders : List CacheHolder) (phases : List Phase) {i : Nat}
    (known : i < holders.length) : Forgets ((Session.start holders).play phases) i :=
  ((Quiet.start holders).play phases).faithful.forgets known

/-- A round in which a fetch of a task pauses. In the meantime another task clears the cache and requests
the children directly. -/
def overtakenRound : Phase :=
  let given (number : Int) : Logged (List Child) := .ofExcept (.ok [.value (.integer number)])
  let other := AsyncFetch.clearThen 0 (.get 0 (.finish (given 2)) fun _ => .finish (given 3))
  .round [.request 0 (.pause (.finish (given 1))), .perform other]
    [.go 0, .go 0, .go 1, .go 1, .go 1, .go 1, .go 0, .go 0]

theorem forgets_overtakenRound :
    let s := (Session.start [.other (.text "a")]).play [overtakenRound]
    let own : Stored := ⟨1, [.value (.integer 1)]⟩
    s.history[2]? = some (.cleared 0) ∧ EnteredAt s.history 1 0 1 (.task 0) ∧
      s.history[5]? = some (.answered 0 1 (.fetched (.task 0) 1 (.ok own.children) false) (.ok own)) ∧
      ∀ result, (s.object 0).cache.stored = some result → 2 < result.stamp := by
  intro s own
  have memory : Forgets s 0 := forgets_play _ [overtakenRound] (by decide)
  refine ⟨rfl, rfl, rfl, ?_⟩
  intro result stored
  rw [memory.stored] at stored
  have cleared : s.history[2]? = some (.cleared 0) := rfl
  have before : 2 < s.now := by decide
  rw [← List.take_length (l := s.history)] at stored
  exact (memory.contained cleared before (Nat.le_refl _) stored).1

/-- A fetch that clears the cache that it is made for and then gives something. -/
def selfClearingFetch : Fetch := .clearThen 0 (.finish (.ofExcept (.ok [.value (.integer 1)])))

/-- A fetch that was overtaken by a clear does not always hand what it gave to its caller: not if the
children are those of an object that cannot be named. -/
theorem not_forall_handed : ¬ ∀ (holders : List CacheHolder) (phases : List Phase) (i : Nat),
    i < holders.length → ∀ (e request fetch : Nat) (way : Way) (children : List Child)
      (answer : Except Failure Stored),
      ((Session.start holders).play phases).history[e]? =
        some (.answered i request (.fetched way fetch (.ok children) false) answer) →
      answer = .ok ⟨fetch, children⟩ := by
  intro handed
  -- the integer itself is kept out of what is computed below
  obtain ⟨holder, unnamed⟩ : ∃ holder : CacheHolder, holder.isNamed = false :=
    ⟨longHolder, isNamed_longHolder⟩
  let s := (Session.start [holder]).play [.steps [.get 0 selfClearingFetch]]
  let given : List Child := [.value (.integer 1)]
  have ended : s.history[2]? = some (.answered 0 0 (.fetched .direct 0 (.ok given) false)
    (Session.fetchAnswer holder 0 (.ok given)).1) := rfl
  have memory : Forgets s 0 := ((Quiet.start [holder]).play _).faithful.forgets Nat.zero_lt_one
  have promised := handed [holder] _ 0 Nat.zero_lt_one 2 0 0 .direct given _ ended
  rw [(memory.handed ended).2.2 unnamed] at promised
  cases promised

end Syscat.Replay
