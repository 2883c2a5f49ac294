/-
Module: Syscat.Proofs.Cache.Fetching
Purpose: Fetches keep a session faithful: how one is entered and ended in either lane, how a direct
  request is answered, and that a direct fetch, however deep its own requests go, leaves the fetches in
  progress around it as they were.
Main exports: Faithful.beginFetch, Faithful.finishFetch, Faithful.request, Faithful.run, Faithful.steps
-/
import Syscat.Proofs.Cache.Faithful

namespace Syscat.Replay

section
variable {holders : List CacheHolder} {s : Session} {i : Nat}

/-! ### Entering a fetch -/

theorem Matches.occupy {c : ChildCache} {h : History} (matched : Matches c i h) (request fetch : Nat)
    (way : Way) : Matches (c.occupy way) i (h ++ [.entered i request fetch way]) := by
  cases way with
  | direct =>
      constructor
      · simp [ChildCache.occupy, Event.contentsAfter, Event.clears, Event.kept?, matched.stored]
      · simp [ChildCache.occupy, Event.clears, matched.generation]
      · simp [ChildCache.occupy, Event.currentAfter, Way.lane]
      · simp [ChildCache.occupy, Event.currentAfter, Way.lane]
      · simp [ChildCache.occupy, Event.currentAfter, Way.lane, matched.taken]
      · exact matched.working
  | task me =>
      constructor
      · simp [ChildCache.occupy, Event.contentsAfter, Event.clears, Event.kept?, matched.stored]
      · simp [ChildCache.occupy, Event.clears, matched.generation]
      · simp [ChildCache.occupy, Event.currentAfter, Way.lane, matched.fetching]
      · simp [ChildCache.occupy, Event.currentAfter, Way.lane, matched.locked]
      · simp [ChildCache.occupy, Event.currentAfter, Way.lane, Turnstile.take]
      · exact matched.working

/-- A fetch may be entered for a request if the cache is empty, its lane idle and no direct fetch in
progress. -/
theorem Faithful.beginFetch (faithful : Faithful holders s) {request : Nat} {way : Way}
    (requested : i < holders.length → Requested s.history i request)
    (empty : i < holders.length → contents i s.history = none)
    (free : i < holders.length → current i way.lane s.history = none)
    (idle : i < holders.length → current i .direct s.history = none) :
    Faithful holders (s.beginFetch i request way) := by
  have counted : Faithful holders { s with fetches := s.fetches + 1 } := faithful.of_same rfl rfl
  refine counted.change (by rfl) _ ?_ ?_
  · intro known
    exact ⟨rfl, requested known, empty known, free known, idle known⟩
  · intro known matched
    exact matched.occupy request _ way

@[simp] theorem history_beginFetch (s : Session) (i request : Nat) (way : Way) :
    (s.beginFetch i request way).history = s.history ++ [.entered i request s.now way] := rfl

/-- The ticket of a fetch is open once the fetch is entered. -/
theorem openIn_beginFetch (faithful : Faithful holders s) (known : i < holders.length) (request : Nat)
    (way : Way) : Ticket.OpenIn (s.ticket i request) i way (s.beginFetch i request way).history := by
  constructor
  · simp [Session.ticket, Session.now]
  · simp [Session.ticket, Event.currentAfter]
  · simp [Session.ticket, Session.now, (faithful.caches i known).generation]

/-! ### Ending a fetch -/

theorem answers_fetchAnswer (holder : CacheHolder) (fetch : Nat)
    (outcome : Except Failure (List Child)) :
    Answers holder fetch outcome (Session.fetchAnswer holder fetch outcome).1 := by
  cases outcome with
  | ok children =>
      cases named : holder.isNamed with
      | true =>
          simp only [Session.fetchAnswer, named, if_true]
          exact .given children named
      | false =>
          simp only [Session.fetchAnswer, named, Bool.false_eq_true, if_false]
          exact .withheld children named
  | error failure => exact .failed failure _

theorem Matches.settle {c : ChildCache} {h : History} (matched : Matches c i h) (t : Ticket)
    (way : Way) (outcome : Except Failure (List Child)) (answer : Except Failure Stored) :
    Matches ((c.store t outcome).release way) i
      (h ++ [.answered i t.request
        (.fetched way t.fetch outcome (c.keeps t.generation outcome)) answer]) := by
  have stored : (c.store t outcome).stored =
      contents i (h ++ [.answered i t.request
        (.fetched way t.fetch outcome (c.keeps t.generation outcome)) answer]) := by
    rw [contents_append, ← matched.stored]
    cases outcome with
    | error failure =>
        simp [ChildCache.store, Event.contentsAfter, Event.clears, Event.kept?]
    | ok children =>
        by_cases same : c.generation = t.generation
        · simp [ChildCache.store, ChildCache.keeps, Event.contentsAfter, Event.clears, Event.kept?,
            Except.isOk, Except.toBool, same]
        · have unequal : (c.generation == t.generation) = false := by simpa using same
          simp [ChildCache.store, ChildCache.keeps, Event.contentsAfter, Event.clears, Event.kept?,
            same, unequal]
  rw [c.store_eq]
  -- The two lanes differ in the mark and the lock that are given back.
  cases way with
  | direct =>
      constructor
      · exact stored
      · simp [ChildCache.release, Event.clears, matched.generation]
      · simp [ChildCache.release, Event.currentAfter, Way.lane]
      · simp [ChildCache.release, Event.currentAfter, Way.lane]
      · simp [ChildCache.release, Event.currentAfter, Way.lane, matched.taken]
      · exact matched.working
  | task me =>
      constructor
      · exact stored
      · simp [ChildCache.release, Event.clears, matched.generation]
      · simp [ChildCache.release, Event.currentAfter, Way.lane, matched.fetching]
      · simp [ChildCache.release, Event.currentAfter, Way.lane, matched.locked]
      · simp [ChildCache.release, Event.currentAfter, Way.lane, Turnstile.leave]
      · exact matched.working

/-- The generation on a ticket tells whether the cache has been cleared since the fetch began. -/
theorem Ticket.OpenIn.generation_eq_iff {t : Ticket} {way : Way} {h : History}
    (opened : Ticket.OpenIn t i way h) :
    clears i h = t.generation ↔ ClearFree h i t.fetch h.length := by
  rw [opened.generation, eq_comm, clears_take_eq_iff]
  constructor
  · exact fun free c after _ => free c (Nat.le_of_lt after)
  · intro free c after clear
    rcases Nat.lt_or_eq_of_le after with later | rfl
    · exact free c later (lt_length clear) clear
    · rw [opened.entered] at clear
      cases clear

/-- A fetch may end if it is the one in progress in its lane and no direct fetch is in progress
besides. -/
theorem Faithful.finishFetch (faithful : Faithful holders s) {way : Way} {t : Ticket}
    (outcome : Except Failure (List Child))
    (opened : i < holders.length → Ticket.OpenIn t i way s.history)
    (alone : i < holders.length → ∀ other, current i .direct s.history = some other → other = t.fetch) :
    Faithful holders (s.finishFetch i way t outcome).2 := by
  have noted : Faithful holders (s.note (Session.fetchAnswer (s.object i).holder t.fetch outcome).2) :=
    faithful.of_same rfl rfl
  refine noted.change (by rfl) _ ?_ ?_
  · intro known
    have ticket := opened known
    refine ⟨ticket.entered, ticket.running, alone known, ?_, ?_⟩
    · rw [← faithful.holder i known]
      exact answers_fetchAnswer _ _ _
    · rw [ChildCache.keeps, Bool.and_eq_true, beq_iff_eq, (faithful.caches i known).generation]
      simp only [Session.history_note]
      rw [ticket.generation_eq_iff, and_comm]
  · intro known matched
    exact matched.settle t way outcome _

/-- The end of a fetch is one event, which tells the answer. -/
theorem history_finishFetch (s : Session) (i : Nat) (way : Way) (t : Ticket)
    (outcome : Except Failure (List Child)) :
    ∃ kept, (s.finishFetch i way t outcome).2.history = s.history ++
      [.answered i t.request (.fetched way t.fetch outcome kept) (s.finishFetch i way t outcome).1] :=
  ⟨_, rfl⟩

/-! ### Requests -/

/-- What a request gets without a fetch of its own: what is stored, or a refusal if nothing is. -/
def AtOnce (stored : Option Stored) (source : Source) (answer : Except Failure Stored) : Prop :=
  (source = .atHand ∧ ∃ result, stored = some result ∧ answer = .ok result) ∨
    (source = .refused ∧ stored = none ∧ ∃ failure, answer = .error failure)

theorem atOnce_of_directAnswer? {source : Source} {answer : Except Failure Stored}
    (found : s.directAnswer? i = some (source, answer)) :
    AtOnce (s.object i).cache.stored source answer := by
  unfold Session.directAnswer? at found
  cases stored : (s.object i).cache.stored with
  | some result =>
      simp only [stored] at found
      cases found
      exact Or.inl ⟨rfl, result, rfl, rfl⟩
  | none =>
      simp only [stored] at found
      split at found
      · cases found
        exact Or.inr ⟨rfl, rfl, _, rfl⟩
      · split at found
        · cases found
          exact Or.inr ⟨rfl, rfl, _, rfl⟩
        · cases found

theorem Faithful.answerAtOnce (faithful : Faithful holders s) {source : Source}
    {answer : Except Failure Stored} (found : AtOnce (s.object i).cache.stored source answer) :
    Faithful holders (s.record (.answered i s.now source answer)) := by
  refine faithful.record (i := i) (by rfl) ?_ ?_
  · intro known
    rw [(faithful.caches i known).stored] at found
    rcases found with ⟨rfl, result, stored, rfl⟩ | ⟨rfl, empty, failure, rfl⟩
    · exact ⟨Or.inl rfl, result, stored, rfl⟩
    · exact ⟨rfl, empty, failure, rfl⟩
  · intro known matched
    rcases found with ⟨rfl, _⟩ | ⟨rfl, _⟩
    · exact matched.of_idle rfl rfl fun _ _ => rfl
    · exact matched.of_idle rfl rfl fun _ _ => rfl

theorem carries_answerAtOnce {source : Source} {answer : Except Failure Stored}
    (found : AtOnce (s.object i).cache.stored source answer) :
    Carries holders s (s.record (.answered i s.now source answer)) := by
  rcases found with ⟨rfl, _⟩ | ⟨rfl, _⟩
  · exact Carries.of_event rfl id fun _ _ => by simp [Event.currentAfter]
  · exact Carries.of_event rfl id fun _ _ => by simp [Event.currentAfter]

/-- What is done directly between the entry and the end of a direct fetch carries a session on along with
both, if they leave the fetches in progress as they were. -/
theorem Carries.around {begun done after : Session} (carried : Carries holders begun done)
    {entered ended : Event} (before : begun.history = s.history ++ [entered])
    (behind : after.history = done.history ++ [ended]) (direct : ¬ Event.ByTask entered)
    (direct' : ¬ Event.ByTask ended)
    (restored : ∀ j, j < holders.length → ∀ lane, ended.currentAfter j lane
      (entered.currentAfter j lane (current j lane s.history)) = current j lane s.history) :
    Carries holders s after := by
  obtain ⟨rest, during, inside⟩ := carried.history
  refine ⟨⟨[entered] ++ (rest ++ [ended]), ?_, ?_⟩, ?_⟩
  · rw [behind, during, before, List.append_assoc, List.append_assoc]
  · intro e member
    rcases List.mem_append.mp member with first | later
    · rw [List.mem_singleton.mp first]
      exact direct
    · rcases List.mem_append.mp later with within | last
      · exact inside e within
      · rw [List.mem_singleton.mp last]
        exact direct'
  · intro j known lane
    rw [behind, current_append, carried.running j known lane, before, current_append]
    exact restored j known lane

/-- A direct request keeps a session faithful if its fetch does. The fetches in progress around it are
the same afterwards. -/
theorem Faithful.request (faithful : Faithful holders s) (i : Nat)
    {carryOut : Session → Except Failure (List Child) × Session}
    (keeps : ∀ s, Faithful holders s →
      Faithful holders (carryOut s).2 ∧ Carries holders s (carryOut s).2) :
    Faithful holders (s.request i carryOut).2 ∧ Carries holders s (s.request i carryOut).2 := by
  unfold Session.request
  cases found : s.directAnswer? i with
  | some result =>
      obtain ⟨source, answer⟩ := result
      have atOnce := atOnce_of_directAnswer? found
      exact ⟨faithful.answerAtOnce atOnce, carries_answerAtOnce atOnce⟩
  | none =>
      obtain ⟨stored, _, fetching⟩ := Session.directAnswer?_eq_none_iff.mp found
      have empty (known : i < holders.length) : contents i s.history = none :=
        (faithful.caches i known).stored.symm.trans stored
      have idle (known : i < holders.length) : current i .direct s.history = none := by
        have matched := (faithful.caches i known).fetching
        rw [fetching] at matched
        exact Option.isNone_iff_eq_none.mp (Option.isSome_eq_false_iff.mp matched.symm)
      have begun : Faithful holders (s.beginFetch i s.now .direct) :=
        faithful.beginFetch (fun _ => Or.inl rfl) empty idle idle
      -- Whatever the fetch does, its own ticket is still open when it ends.
      obtain ⟨done, carried⟩ := keeps _ begun
      have opened (known : i < holders.length) :
          Ticket.OpenIn (s.ticket i s.now) i .direct
            (carryOut (s.beginFetch i s.now .direct)).2.history :=
        (openIn_beginFetch faithful known s.now .direct).extend carried.longer
          (carried.running i known .direct)
      refine ⟨done.finishFetch _ opened ?_, ?_⟩
      · intro known other running
        exact Option.some.inj (running.symm.trans (opened known).running)
      · obtain ⟨kept, history⟩ := history_finishFetch (carryOut (s.beginFetch i s.now .direct)).2 i
          .direct (s.ticket i s.now) (carryOut (s.beginFetch i s.now .direct)).1
        refine carried.around (history_beginFetch s i s.now .direct) history ?_ ?_ ?_
        · simp [Event.ByTask, Way.lane]
        · simp [Event.ByTask, Way.lane]
        · intro j known lane
          by_cases here : i = j ∧ lane = .direct
          · obtain ⟨rfl, rfl⟩ := here
            simp [Event.currentAfter, Way.lane, idle known]
          · have elsewhere : ¬ (i = j ∧ Way.direct.lane = lane) :=
              fun both => here ⟨both.1, both.2.symm⟩
            simp only [Event.currentAfter, if_neg elsewhere]

/-- A direct fetch keeps a session faithful, whatever it does on the way. The induction is on the fetch;
a request inside it brings the hypothesis for the fetch of that request. -/
theorem Faithful.run (fetch : Fetch) : ∀ {s : Session}, Faithful holders s →
    Faithful holders (fetch.run s).2 ∧ Carries holders s (fetch.run s).2 := by
  induction fetch with
  | finish outcome =>
      intro s faithful
      exact ⟨faithful.of_same rfl rfl, Carries.of_eq rfl⟩
  | clear i next hypothesis =>
      intro s faithful
      obtain ⟨done, carried⟩ := hypothesis (s.clear i).1 (faithful.clear i)
      exact ⟨done, (carries_clear i).trans carried⟩
  | peek i next hypothesis =>
      intro s faithful
      obtain ⟨done, carried⟩ := hypothesis (s.peek i).1 (faithful.peek i)
      exact ⟨done, (carries_peek i).trans carried⟩
  | copy i update next hypothesis =>
      intro s faithful
      obtain ⟨done, carried⟩ := hypothesis (s.copy i update).1 (faithful.copy i update)
      exact ⟨done, (carries_copy i update).trans carried⟩
  | get i inner next innerHypothesis hypothesis =>
      intro s faithful
      obtain ⟨requested, carriedThere⟩ := faithful.request i fun _ => innerHypothesis
      obtain ⟨done, carried⟩ := hypothesis (s.request i inner.run).1 requested
      exact ⟨done, carriedThere.trans carried⟩

theorem Faithful.get (faithful : Faithful holders s) (i : Nat) (fetch : Fetch) :
    Faithful holders (s.get i fetch).2 ∧ Carries holders s (s.get i fetch).2 :=
  faithful.request i fun _ => Faithful.run fetch

/-! ### Steps of a single caller -/

theorem Faithful.step (faithful : Faithful holders s) (step : Step) :
    Faithful holders (s.step step) ∧ Carries holders s (s.step step) := by
  cases step with
  | get i fetch => exact faithful.get i fetch
  | clear i => exact ⟨faithful.clear i, carries_clear i⟩
  | peek i => exact ⟨faithful.peek i, carries_peek i⟩
  | copy i update => exact ⟨faithful.copy i update, carries_copy i update⟩

theorem Faithful.steps (steps : List Step) : ∀ {s : Session}, Faithful holders s →
    Faithful holders (s.steps steps) ∧ Carries holders s (s.steps steps) := by
  induction steps with
  | nil =>
      intro s faithful
      exact ⟨faithful, Carries.of_eq rfl⟩
  | cons step rest hypothesis =>
      intro s faithful
      obtain ⟨done, carried⟩ := faithful.step step
      obtain ⟨doneAll, carriedAll⟩ := hypothesis done
      exact ⟨doneAll, carried.trans carriedAll⟩

/-- A session whose caches were never used is faithful. -/
theorem Faithful.start (holders : List CacheHolder) :
    Faithful holders (Session.start holders) := by
  refine ⟨?_, ?_, Lawful.nil _, ?_⟩
  · simp [Session.start]
  · intro i known
    simp [Session.start, Session.object, known]
  · intro i known
    have fresh : ((Session.start holders).object i).cache = ChildCache.empty := by
      simp [Session.start, Session.object, known]
    rw [fresh]
    exact ⟨rfl, rfl, rfl, rfl, rfl, rfl⟩

end

end Syscat.Replay
