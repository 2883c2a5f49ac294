/-
Module: Syscat.Proofs.Cache.Copying
Purpose: The ways to copy an object, when objects only refer to their caches. A shallow copy takes the
  reference over until it is given a new cache, and a deep copy copies the cache, which gives a new one.
  In a session, where an object has its cache in itself, all of them are the same copy.
Main exports: Store, CopyWay, Store.copy, Store.Shows, Store.shows_start, Store.Shows.copy,
  Store.Shows.changeCache
-/
import Mathlib.Data.List.Nodup
import Syscat.Cache.Session

namespace Syscat

/-- An object that refers to its cache by the place where that is kept. -/
structure Reference where
  holder : CacheHolder
  place : Nat
deriving Repr, Inhabited

/-- Objects and caches, kept apart. -/
structure Store where
  objects : List Reference
  caches : List ChildCache

/-- The ways to copy an object. A model copy is a shallow or a deep one that some fields are changed
in. -/
inductive CopyWay where
  | shallow
  | deep
  | model (deep : Bool) (update : Fields)

/-- The fields that a way to copy changes. -/
def CopyWay.update : CopyWay → Fields
  | shallow | deep => []
  | model _ update => update

/-- A cache's own way to be copied, deep or not: it starts anew. -/
def ChildCache.copied (_ : ChildCache) : ChildCache := .empty

/-- A copy in which no field is changed has the holder of the original. -/
theorem revisedHolder_nil (holder : CacheHolder) : Session.revisedHolder holder [] = holder := by
  cases holder with
  | routine r => rfl
  | other name => rfl

namespace Store

def object (s : Store) (i : Nat) : Reference :=
  s.objects.getD i default

def cacheAt (s : Store) (place : Nat) : ChildCache :=
  s.caches.getD place .empty

/-- Keep a cache in a new place. -/
def keep (s : Store) (c : ChildCache) : Nat × Store :=
  (s.caches.length, { s with caches := s.caches ++ [c] })

/-- A shallow copy refers to the cache of the original at first, and then to a new one. -/
def shallowCopy (s : Store) (i : Nat) : Reference × Store :=
  let copied := s.object i
  let (place, s) := s.keep .empty
  ({ copied with place }, s)

/-- A deep copy refers to a copy of the cache. -/
def deepCopy (s : Store) (i : Nat) : Reference × Store :=
  let original := s.object i
  let (place, s) := s.keep (s.cacheAt original.place).copied
  ({ original with place }, s)

/-- Copy an object in some way. The copy is added at the end. -/
def copy (s : Store) (i : Nat) (way : CopyWay) : Store :=
  let add := fun (added : Reference × Store) => { added.2 with objects := added.2.objects ++ [added.1] }
  match way with
  | .shallow => add (s.shallowCopy i)
  | .deep => add (s.deepCopy i)
  | .model deep update =>
      let (copied, s) := if deep then s.deepCopy i else s.shallowCopy i
      add ({ copied with holder := Session.revisedHolder copied.holder update }, s)

def changeCache (s : Store) (place : Nat) (change : ChildCache → ChildCache) : Store :=
  { s with caches := s.caches.modify place change }

/-- An object together with the cache that it refers to. -/
def view (s : Store) (o : Reference) : CacheObject :=
  ⟨o.holder, s.cacheAt o.place⟩

/-- A store shows a session if the session's objects are what one sees there, and no two objects refer to
the same cache. -/
structure Shows (s : Store) (t : Session) : Prop where
  objects : t.objects = s.objects.map s.view
  kept : ∀ o ∈ s.objects, o.place < s.caches.length
  apart : (s.objects.map Reference.place).Nodup

/-- A new object with a new cache. -/
def addNew (s : Store) (holder : CacheHolder) : Store :=
  ⟨s.objects ++ [⟨holder, s.caches.length⟩], s.caches ++ [.empty]⟩

/-- Objects that were never used, each with a cache of its own. -/
def start (holders : List CacheHolder) : Store :=
  holders.foldl addNew ⟨[], []⟩

/-- Whatever way an object is copied in, the copy refers to a new cache. -/
theorem copy_eq (s : Store) (i : Nat) (way : CopyWay) :
    s.copy i way = s.addNew (Session.revisedHolder (s.object i).holder way.update) := by
  cases way with
  | shallow => rw [CopyWay.update, revisedHolder_nil]; rfl
  | deep => rw [CopyWay.update, revisedHolder_nil]; rfl
  | model deep update => cases deep <;> rfl

section
variable {s : Store} {t : Session}

theorem Shows.holder_object (shows : s.Shows t) (i : Nat) :
    (s.object i).holder = (t.object i).holder := by
  rw [Session.object, shows.objects, object]
  by_cases inside : i < s.objects.length
  · simp [inside, view]
  · simp [inside]
    rfl

theorem Shows.addNew (shows : s.Shows t) (holder : CacheHolder) :
    (s.addNew holder).Shows { t with objects := t.objects ++ [⟨holder, .empty⟩] } := by
  constructor
  case objects =>
    have old : ∀ o ∈ s.objects, (s.addNew holder).view o = s.view o := by
      intro o member
      simp [view, cacheAt, Store.addNew, List.getElem?_append_left, shows.kept o member]
    have new : (s.addNew holder).view ⟨holder, s.caches.length⟩ = ⟨holder, .empty⟩ := by
      simp [view, cacheAt, Store.addNew]
    simp only [Store.addNew, List.map_append, List.map_singleton] at old new ⊢
    rw [new, List.map_congr_left old, shows.objects]
  case kept =>
    intro o member
    simp only [Store.addNew, List.mem_append, List.mem_singleton, List.length_append] at member ⊢
    rcases member with old | rfl
    · exact Nat.lt_succ_of_lt (shows.kept o old)
    · exact Nat.lt_succ_self _
  case apart =>
    simp only [Store.addNew, List.map_append, List.map_singleton]
    refine List.nodup_append.mpr ⟨shows.apart, List.nodup_singleton _, ?_⟩
    rintro _ old _ new rfl
    obtain ⟨o, member, place⟩ := List.mem_map.mp old
    exact absurd (shows.kept o member) (by rw [place, List.mem_singleton.mp new]; exact Nat.lt_irrefl _)

theorem Shows.addAll (holders : List CacheHolder) : ∀ {s : Store} {t : Session}, s.Shows t →
    (holders.foldl Store.addNew s).Shows
      { t with objects := t.objects ++ holders.map (⟨·, .empty⟩) } := by
  induction holders with
  | nil =>
      intro s t shows
      rw [List.map_nil, List.append_nil]
      exact shows
  | cons holder holders ih =>
      intro s t shows
      have rest := ih (shows.addNew holder)
      rw [List.append_assoc] at rest
      exact rest

/-- Each object that was never used refers to a cache that was never used. -/
theorem shows_start (holders : List CacheHolder) : (start holders).Shows (Session.start holders) := by
  have nothing : Shows ⟨[], []⟩ (Session.start []) :=
    ⟨rfl, fun _ member => absurd member List.not_mem_nil, List.nodup_nil⟩
  exact nothing.addAll holders

/-- Each way to copy an object is the session's copy with the fields that the way changes. -/
theorem Shows.copy (shows : s.Shows t) (i : Nat) (way : CopyWay) :
    (s.copy i way).Shows (t.copy i way.update).2 := by
  rw [copy_eq, shows.holder_object]
  exact shows.addNew _

/-- What is done to the cache that an object refers to is seen there, and nowhere else. -/
theorem Shows.changeCache (shows : s.Shows t) {i : Nat} {o : Reference}
    (here : s.objects[i]? = some o) (change : ChildCache → ChildCache) :
    (s.changeCache o.place change).Shows (t.updateCache i change) := by
  obtain ⟨inside, rfl⟩ := List.getElem?_eq_some_iff.mp here
  refine ⟨?_, fun p member => ?_, shows.apart⟩
  · apply List.ext_getElem
    · simp [Session.updateCache, Store.changeCache, shows.objects]
    · intro k _ known
      have known : k < s.objects.length := by simpa [Store.changeCache] using known
      have place : s.objects[k].place < s.caches.length := shows.kept _ (List.getElem_mem known)
      -- Different objects refer to different caches.
      have same : s.objects[i].place = s.objects[k].place ↔ i = k := by
        have first : i < (s.objects.map Reference.place).length := by simpa using inside
        have second : k < (s.objects.map Reference.place).length := by simpa using known
        have distinct : (s.objects.map Reference.place)[i] = (s.objects.map Reference.place)[k] ↔ i = k :=
          shows.apart.getElem_inj_iff
        simpa only [List.getElem_map] using distinct
      simp only [Session.updateCache, shows.objects, List.getElem_modify, List.getElem_map, view,
        Store.changeCache, cacheAt, List.getD_eq_getElem?_getD, List.getElem?_modify, same,
        List.getElem?_eq_getElem place, Option.getD_some]
      split <;> rfl
  · simpa [Store.changeCache] using shows.kept p member

end

end Store

end Syscat
