/-
Module: Syscat.Cache.History
Purpose: What happens to caches, in the order in which it happens. Requests and fetches go by their
  places in the history: a request by the place where it came, a fetch by the place where it began.
Main exports: Child, Stored, Way, Source, Event, History
-/
import Syscat.Mapping

namespace Syscat

/-- A child of a catalog object. -/
inductive Child where
  | value (v : Value)
  | parameter (p : Parameter)
deriving Repr, Inhabited

/-- The children that a fetch gave. The stamp is the number of the fetch and tells results apart. -/
structure Stored where
  stamp : Nat
  children : List Child
deriving Repr, Inhabited

/-- How a fetch is made: at once, or by a task, which has a number. -/
inductive Way where
  | direct
  | task (me : Nat)
deriving DecidableEq, Repr, Inhabited

/-- Where the answer to a request comes from. -/
inductive Source where
  /-- The children were at hand. -/
  | atHand
  /-- The request came from inside a fetch for the same children. -/
  | refused
  /-- A fetch was made for the request. It ended with an outcome, and the cache kept that or not. -/
  | fetched (way : Way) (fetch : Nat) (outcome : Except Failure (List Child)) (kept : Bool)

/-- What happens to the caches of a session. -/
inductive Event where
  /-- A round of tasks begins. Tasks of earlier rounds are gone. -/
  | began
  /-- A task requests the children of an object and has to wait for the lock. -/
  | queued (object : Nat)
  /-- A fetch is entered for a request. -/
  | entered (object request fetch : Nat) (way : Way)
  /-- A request is answered. -/
  | answered (object request : Nat) (source : Source) (answer : Except Failure Stored)
  /-- A request that waits for the lock is given up. -/
  | withdrawn (object request : Nat)
  /-- A cache is cleared. -/
  | cleared (object : Nat)
  /-- Somebody sees whether the children are at hand. -/
  | peeked (object : Nat) (populated : Bool)

/-- The events so far, the first one first. -/
abbrev History := List Event

/-- The object that an event is about. -/
def Event.object? : Event → Option Nat
  | began => none
  | queued i | entered i _ _ _ | answered i _ _ _ | withdrawn i _ | cleared i | peeked i _ => some i

end Syscat
