/-
Module: Syscat.Proofs.Cache.Reentrance
Purpose: Fetches that request each other's children, one inside the other. At each moment the caches that
  are locked are those whose fetches are on the call stack, so a request either is answered at once or
  finds the lock free. Functions that call each other in a cycle therefore come to an end: each further
  fetch takes one more lock, and there are no more locks than caches.
Main exports: Moment, Moment.Occurs, Moment.InOrder, Script, Family.unrolled, reentrance_play
-/
import Syscat.Proofs.Cache.Laws
import Syscat.Proofs.Cache.Locks

namespace Syscat

/-! ### Moments -/

/-- A moment at which a fetch runs: the objects whose direct fetches are on the call stack, the innermost
one first, the caches as they are, and what the innermost fetch still does. -/
structure Moment where
  stack : List Nat
  session : Session
  rest : Fetch

/-- How the innermost fetch goes on. A request that needs a fetch leads into it, and every request leads,
once it is over, behind it. -/
inductive Moment.Leads : Moment → Moment → Prop where
  | clear {stack : List Nat} {s : Session} {i : Nat} {next : Except Failure Unit → Fetch} :
      Leads ⟨stack, s, .clear i next⟩ ⟨stack, (s.clear i).2, next (s.clear i).1⟩
  | peek {stack : List Nat} {s : Session} {i : Nat} {next : Bool → Fetch} :
      Leads ⟨stack, s, .peek i next⟩ ⟨stack, (s.peek i).2, next (s.peek i).1⟩
  | copy {stack : List Nat} {s : Session} {i : Nat} {update : Fields} {next : Nat → Fetch} :
      Leads ⟨stack, s, .copy i update next⟩ ⟨stack, (s.copy i update).2, next (s.copy i update).1⟩
  | into {stack : List Nat} {s : Session} {i : Nat} {inner : Fetch}
      {next : Except Failure Stored → Fetch} (inside : i < s.objects.length)
      (unanswered : s.directAnswer? i = none) :
      Leads ⟨stack, s, .get i inner next⟩ ⟨i :: stack, s.beginFetch i s.now .direct, inner⟩
  | behind {stack : List Nat} {s : Session} {i : Nat} {inner : Fetch}
      {next : Except Failure Stored → Fetch} :
      Leads ⟨stack, s, .get i inner next⟩ ⟨stack, (s.get i inner).2, next (s.get i inner).1⟩

/-- The moments of all outermost requests. Such a request comes after a run, also in the middle of a round
of tasks, and needs a fetch. -/
inductive Moment.Occurs (holders : List CacheHolder) : Moment → Prop where
  | outermost (phases : List Phase) {i : Nat} {s : Session} (fetch : Fetch)
      (run : s = (Session.start holders).play phases) (inside : i < s.objects.length)
      (unanswered : s.directAnswer? i = none) :
      Occurs holders ⟨[i], s.beginFetch i s.now .direct, fetch⟩
  | next {m m' : Moment} (occurs : m.Occurs holders) (leads : m.Leads m') : Occurs holders m'

/-- Running what is left at a moment passes through the moments that it leads to: those with the same
stack have the same end, and a deeper one is the fetch of the request at hand. -/
theorem Moment.Leads.run {m m' : Moment} (leads : m.Leads m') :
    (m'.stack = m.stack ∧ m.rest.run m.session = m'.rest.run m'.session) ∨
      ∃ i next, m'.stack = i :: m.stack ∧ m.rest = .get i m'.rest next ∧
        m.session.get i m'.rest =
          (m'.rest.run m'.session).2.finishFetch i .direct (m.session.ticket i m.session.now)
            (m'.rest.run m'.session).1 := by
  cases leads with
  | clear => exact .inl ⟨rfl, rfl⟩
  | peek => exact .inl ⟨rfl, rfl⟩
  | copy => exact .inl ⟨rfl, rfl⟩
  | @into stack s i inner next inside unanswered =>
      refine .inr ⟨i, next, rfl, rfl, ?_⟩
      simp only [Session.get, Session.request, unanswered]
  | behind => exact .inl ⟨rfl, rfl⟩

theorem Moment.Leads.balanced {m m' : Moment} (leads : m.Leads m')
    (balanced : Balanced m.stack m.session) : Balanced m'.stack m'.session := by
  cases leads with
  | clear => exact balanced.clear _
  | peek => exact balanced.record _
  | copy => exact balanced.copy _ _
  | into inside unanswered => exact balanced.beginFetch inside unanswered _
  | behind => exact balanced.get _ _

theorem Moment.Occurs.balanced {holders : List CacheHolder} {m : Moment} (occurs : m.Occurs holders) :
    Balanced m.stack m.session := by
  induction occurs with
  | outermost phases fetch run inside unanswered =>
      subst run
      exact ((balanced_start holders).play phases).beginFetch inside unanswered _
  | next occurs leads hypothesis => exact leads.balanced hypothesis

/-- What holds at a moment at which a fetch runs. -/
structure Moment.InOrder (m : Moment) : Prop where
  /-- A lock is held exactly while a fetch for its object is on the stack. -/
  locked_iff : ∀ j, j < m.session.objects.length →
    ((m.session.object j).cache.locked = true ↔ j ∈ m.stack)
  /-- A cache is marked exactly while a fetch for its object is on the stack. -/
  fetching_iff : ∀ j, j < m.session.objects.length →
    ((m.session.object j).cache.fetching = true ↔ j ∈ m.stack)
  /-- The cache of an object on the stack is empty, and a request for its children is refused at once:
  under the object's name if that can be written, and else by the failure to write it. -/
  refused : ∀ j ∈ m.stack, ∀ fetch : Fetch,
    let holder := (m.session.object j).holder
    let refusal := Except.error holder.refusal
    (m.session.object j).cache.stored = none ∧
      m.session.get j fetch =
        (refusal, m.session.record (.answered j m.session.now .refused refusal)) ∧
      (holder.isNamed = true → holder.refusal = .reentered holder.name) ∧
      (holder.isNamed = false → holder.refusal = .longInteger)
  /-- A request that finds the cache empty and no mark finds the lock free, too. -/
  free : ∀ j, j < m.session.objects.length → (m.session.object j).cache.stored = none →
    (m.session.object j).cache.fetching = false → (m.session.object j).cache.locked = false
  /-- No request waits for a lock that its own thread holds. -/
  notDeadlocked : ∀ j source owner, j < m.session.objects.length →
    m.session.directAnswer? j ≠ some (source, .error (.deadlocked owner))

section
variable {stack : List Nat} {s : Session}

/-- A request for the children of an object on the stack is refused at once. -/
theorem Balanced.refused (balanced : Balanced stack s) {j : Nat} (there : j ∈ stack) (fetch : Fetch) :
    let refusal := Except.error (s.object j).holder.refusal
    s.get j fetch = (refusal, s.record (.answered j s.now .refused refusal)) := by
  have fetching : (s.object j).cache.fetching = true := by
    rw [balanced.fetching j (balanced.present j there)]
    exact decide_eq_true there
  have answer := Session.directAnswer?_of_fetching (balanced.empty j there) fetching
  simp only [Session.get, Session.request, answer]

theorem refusal_ne_deadlocked (holder : CacheHolder) (owner : Value) :
    holder.refusal ≠ .deadlocked owner := by
  unfold CacheHolder.refusal
  split
  · exact Failure.noConfusion
  · exact Failure.noConfusion

theorem Balanced.not_deadlocked (balanced : Balanced stack s) {j : Nat}
    (inside : j < s.objects.length) (source : Source) (owner : Value) :
    s.directAnswer? j ≠ some (source, .error (.deadlocked owner)) := by
  intro deadlocked
  simp only [Session.directAnswer?] at deadlocked
  split at deadlocked
  · cases deadlocked
  · -- the lock and the mark say the same, and the mark is looked at first
    rw [balanced.locked j inside, balanced.fetching j inside] at deadlocked
    by_cases there : j ∈ stack
    · simp [there, refusal_ne_deadlocked] at deadlocked
    · simp [there] at deadlocked

theorem Balanced.inOrder {m : Moment} (balanced : Balanced m.stack m.session) : m.InOrder := by
  constructor
  case locked_iff =>
    intro j inside
    rw [balanced.locked j inside, decide_eq_true_iff]
  case fetching_iff =>
    intro j inside
    rw [balanced.fetching j inside, decide_eq_true_iff]
  case refused =>
    intro j there fetch
    exact ⟨balanced.empty j there, balanced.refused there fetch, CacheHolder.refusal_of_named,
      CacheHolder.refusal_of_unnamed⟩
  case free =>
    intro j inside _ idle
    rw [balanced.locked j inside, ← balanced.fetching j inside]
    exact idle
  case notDeadlocked => exact fun j source owner inside => balanced.not_deadlocked inside source owner

end

/-! ### Families of functions -/

/-- What a fetch function does, where a request for children names the object only: it brings that
object's own fetch function. -/
inductive Script (n : Nat) where
  | finish (outcome : Logged (List Child))
  | clear (object : Fin n) (next : Except Failure Unit → Script n)
  | peek (object : Fin n) (next : Bool → Script n)
  | get (object : Fin n) (next : Except Failure Stored → Script n)

/-- A fetch function for each of some objects. They may call each other in any pattern. -/
abbrev Family (n : Nat) := Fin n → Script n

/-- What a function does, given what the functions do that it calls. -/
def Script.fetch {n : Nat} (called : Fin n → Fetch) : Script n → Fetch
  | finish outcome => .finish outcome
  | clear i next => .clear i fun answer => (next answer).fetch called
  | peek i next => .peek i fun populated => (next populated).fetch called
  | get i next => .get i (called i) fun answer => (next answer).fetch called

/-- The functions of a family, unrolled to a depth. Calls from deeper inside do `cut` instead. -/
def Family.unrolled {n : Nat} (family : Family n) (cut : Fetch) : Nat → Fin n → Fetch
  | 0, _ => cut
  | depth + 1, i => (family i).fetch (family.unrolled cut depth)

section
variable {n : Nat} {stack : List Nat} {s : Session} {i : Nat}

/-- While a request needs a fetch, there are more caches than fetches on the stack. -/
theorem Balanced.length_stack_lt (balanced : Balanced stack s) (nodup : stack.Nodup)
    (inside : i < s.objects.length) (off : i ∉ stack) : stack.length < s.objects.length := by
  have distinct : (i :: stack).Nodup := List.nodup_cons.mpr ⟨off, nodup⟩
  have known : i :: stack ⊆ List.range s.objects.length := by
    intro k there
    rcases List.mem_cons.mp there with rfl | there
    · exact List.mem_range.mpr inside
    · exact List.mem_range.mpr (balanced.present k there)
  have bound := distinct.length_le_of_subset known
  simp only [List.length_cons, List.length_range] at bound
  exact bound

/-- Two ways to carry out a request come to the same if they do where the fetch is entered. -/
theorem Session.request_congr {carryOut carryOut' : Session → Except Failure (List Child) × Session}
    (same : s.directAnswer? i = none →
      carryOut (s.beginFetch i s.now .direct) = carryOut' (s.beginFetch i s.now .direct)) :
    s.request i carryOut = s.request i carryOut' := by
  unfold Session.request
  split
  · rfl
  · next unanswered => rw [same unanswered]

theorem Session.length_objects_request
    {carryOut : Session → Except Failure (List Child) × Session}
    (same : s.directAnswer? i = none → (carryOut (s.beginFetch i s.now .direct)).2.objects.length =
      s.objects.length) : (s.request i carryOut).2.objects.length = s.objects.length := by
  unfold Session.request
  split
  · rfl
  · next unanswered => simp [same unanswered]

/-- A function does the same with other functions to call if those do the same wherever they are
entered. The induction is on what the function still does. -/
theorem Script.run_congr {called called' : Fin n → Fetch}
    (agree : ∀ (i : Fin n) (s : Session), Balanced stack s → s.objects.length = n →
      s.directAnswer? i = none →
        (called i).run (s.beginFetch i s.now .direct) =
            (called' i).run (s.beginFetch i s.now .direct) ∧
          ((called i).run (s.beginFetch i s.now .direct)).2.objects.length = n)
    (script : Script n) : ∀ s : Session, Balanced stack s → s.objects.length = n →
      (script.fetch called).run s = (script.fetch called').run s ∧
        ((script.fetch called).run s).2.objects.length = n := by
  induction script with
  | finish outcome => exact fun s _ size => ⟨rfl, size⟩
  | clear i next hypothesis =>
      intro s balanced size
      exact hypothesis _ _ (balanced.clear i) ((s.length_objects_clear i).trans size)
  | peek i next hypothesis =>
      intro s balanced size
      exact hypothesis _ _ (balanced.record _) size
  | get i next hypothesis =>
      intro s balanced size
      have inner := agree i s balanced size
      have same := Session.request_congr fun unanswered => (inner unanswered).1
      have length := Session.length_objects_request
        fun unanswered => (inner unanswered).2.trans size.symm
      simp only [Script.fetch, Fetch.run]
      rw [← same]
      exact hypothesis _ _ (balanced.request i (Balanced.run _)) (length.trans size)

/-- A depth that covers the caches whose fetches are not on the stack is as good as any greater one: two
unrollings do the same. Each fetch that is entered uses up one cache and one level. -/
theorem Script.run_unrolled (family : Family n) (cut cut' : Fetch) (depth : Nat) :
    ∀ (depth' : Nat) (script : Script n) (stack : List Nat) (s : Session), Balanced stack s →
      stack.Nodup → s.objects.length = n → n ≤ stack.length + depth → n ≤ stack.length + depth' →
      (script.fetch (family.unrolled cut depth)).run s =
          (script.fetch (family.unrolled cut' depth')).run s ∧
        ((script.fetch (family.unrolled cut depth)).run s).2.objects.length = n := by
  induction depth with
  | zero =>
      intro depth' script stack s balanced nodup size covers covers'
      refine script.run_congr (fun i s balanced size unanswered => ?_) s balanced size
      -- all caches are on the stack, so no request needs a fetch
      have inside : i.val < s.objects.length := size.symm ▸ i.isLt
      have off := (balanced.free_of_unanswered inside unanswered).1
      have room := balanced.length_stack_lt nodup inside off
      omega
  | succ depth deeper =>
      intro depth' script stack s balanced nodup size covers covers'
      refine script.run_congr (fun i s balanced size unanswered => ?_) s balanced size
      have inside : i.val < s.objects.length := size.symm ▸ i.isLt
      have off := (balanced.free_of_unanswered inside unanswered).1
      have room := balanced.length_stack_lt nodup inside off
      obtain ⟨below, rfl⟩ : ∃ below, depth' = below + 1 := ⟨depth' - 1, by omega⟩
      apply deeper below (family i) (i :: stack) _ (balanced.beginFetch inside unanswered s.now)
      · exact List.nodup_cons.mpr ⟨off, nodup⟩
      · simp [size]
      · simp only [List.length_cons]
        omega
      · simp only [List.length_cons]
        omega

/-- What an outermost call of a family does is settled once the functions are unrolled as deep as there
are caches. -/
theorem Family.get_unrolled (family : Family n) (cut cut' : Fetch) {depth depth' : Nat}
    (balanced : Balanced [] s) (size : s.objects.length = n) (covers : n ≤ depth)
    (covers' : n ≤ depth') (i : Fin n) :
    s.get i (family.unrolled cut depth i) = s.get i (family.unrolled cut' depth' i) := by
  apply Session.request_congr
  intro unanswered
  have inside : i.val < s.objects.length := size.symm ▸ i.isLt
  have some : 0 < n := Nat.lt_of_le_of_lt (Nat.zero_le _) i.isLt
  obtain ⟨below, rfl⟩ : ∃ below, depth = below + 1 := ⟨depth - 1, by omega⟩
  obtain ⟨below', rfl⟩ : ∃ below', depth' = below' + 1 := ⟨depth' - 1, by omega⟩
  have begun := balanced.beginFetch inside unanswered s.now
  refine (Script.run_unrolled family cut cut' below below' (family i) [i.val] _ begun ?_ ?_ ?_ ?_).1
  · exact List.pairwise_singleton _ _
  · simp [size]
  · simp only [List.length_singleton]
    omega
  · simp only [List.length_singleton]
    omega

end

/-- Requests inside requests never wait for each other, in whatever pattern the fetches call each other
and whether or not they go on after a failure. At each moment the locks and marks are those of the call
stack, and a request for an object on it is refused at once; when the outermost request is over, all locks
and marks are free. Functions that call each other in cycles do what they do when unrolled as deep as
there are caches. -/
theorem reentrance_play (holders : List CacheHolder) :
    (∀ m : Moment, m.Occurs holders → m.InOrder) ∧
      (∀ (phases : List Phase) (i : Nat) (fetch : Fetch),
        let s := (((Session.start holders).play phases).get i fetch).2
        ∀ j, j < s.objects.length →
          (s.object j).cache.locked = false ∧ (s.object j).cache.fetching = false) ∧
      ∀ (phases : List Phase) (n : Nat) (family : Family n) (cut cut' : Fetch) (depth depth' : Nat)
        (i : Fin n), let s := (Session.start holders).play phases
        s.objects.length = n → n ≤ depth → n ≤ depth' →
          s.get i (family.unrolled cut depth i) = s.get i (family.unrolled cut' depth' i) := by
  have settled (phases : List Phase) : Balanced [] ((Session.start holders).play phases) :=
    (balanced_start holders).play phases
  refine ⟨fun m occurs => occurs.balanced.inOrder, ?_, ?_⟩
  · intro phases i fetch s j inside
    have done : Balanced [] s := (settled phases).get i fetch
    exact ⟨done.locked j inside, done.fetching j inside⟩
  · intro phases n family cut cut' depth depth' i s size covers covers'
    exact family.get_unrolled cut cut' (settled phases) size covers covers' i

/-- Two functions that call each other. The inner one goes on after it was refused. -/
def mutualFamily : Family 2
  | 0 => .get 1 fun _ => .finish (.ofExcept (.ok [.value (.integer 1)]))
  | 1 => .get 0 fun _ => .finish (.ofExcept (.ok []))

/-- The inner of two functions that call each other finds both locks held and is refused by the cache of
the outer one; the outer one ends well, and no lock is left. -/
theorem reentrance_mutualFamily :
    let holders : List CacheHolder := [.other (.text "a"), .other (.text "b")]
    let s := Session.start holders
    let cut := Fetch.finish (.fail .longInteger)
    (∃ m : Moment, m.Occurs holders ∧ m.stack = [1, 0] ∧ (m.session.object 0).cache.locked = true ∧
      (m.session.get 0 cut).1 = .error (.reentered (.text "a"))) ∧
      (∀ depth, 2 ≤ depth → (s.get 0 (mutualFamily.unrolled cut depth 0)).1 =
        .ok ⟨0, [.value (.integer 1)]⟩) ∧
      ((s.get 0 (mutualFamily.unrolled cut 2 0)).2.object 0).cache.locked = false := by
  intro holders s cut
  obtain ⟨moments, ended, families⟩ := reentrance_play holders
  refine ⟨?_, fun depth covers => ?_, ?_⟩
  · have outer : Moment.Occurs holders ⟨[0], s.beginFetch 0 s.now .direct,
        mutualFamily.unrolled cut 2 0⟩ := .outermost [] _ rfl (by decide) rfl
    refine ⟨_, outer.next (.into (by decide) rfl), rfl, rfl, ?_⟩
    have order := moments _ (outer.next (.into (by decide) rfl))
    obtain ⟨_, refused, named, _⟩ := order.refused 0 (by decide) cut
    rw [refused, named rfl]
    rfl
  · have same := families [] 2 mutualFamily cut cut depth 2 0 rfl covers (Nat.le_refl 2)
    exact congrArg Prod.fst same
  · exact (ended [] 0 (mutualFamily.unrolled cut 2 0) 0 (by decide)).1

/-- A request for an object on the stack is not always refused under the object's name: while the
fetch for an object runs that cannot be named, its failure is another one. -/
theorem not_forall_refused : ¬ ∀ (holders : List CacheHolder) (m : Moment), m.Occurs holders →
    ∀ j ∈ m.stack, ∀ fetch : Fetch,
      (m.session.get j fetch).1 = .error (.reentered (m.session.object j).holder.name) := by
  intro refused
  -- the integer itself is kept out of what is computed below
  obtain ⟨holder, unnamed⟩ : ∃ holder : CacheHolder, holder.isNamed = false :=
    ⟨Replay.longHolder, Replay.isNamed_longHolder⟩
  let s := Session.start [holder]
  let inner : Fetch := .finish (.ofExcept (.ok []))
  let m : Moment := ⟨[0], s.beginFetch 0 s.now .direct, .getThen 0 inner false inner⟩
  have occurs : m.Occurs [holder] := .outermost [] _ rfl Nat.zero_lt_one rfl
  obtain ⟨_, answer, _, failure⟩ := occurs.balanced.inOrder.refused 0 List.mem_cons_self inner
  have promised := refused [holder] m occurs 0 List.mem_cons_self inner
  rw [answer, failure unnamed] at promised
  cases promised

end Syscat
