/-
Module: Syscat.Cache.Fetch
Purpose: Direct requests for children. What a fetch does is a tree: it may use the caches, its own one
  among them, and goes on as the answers are, until it gives children or fails.
Main exports: Fetch, Session.request, Fetch.run, Session.get, Session.getTogether
-/
import Syscat.Cache.Session

namespace Syscat

inductive Fetch where
  /-- End with children or a failure. -/
  | finish (outcome : Logged (List Child))
  | clear (object : Nat) (next : Except Failure Unit → Fetch)
  | peek (object : Nat) (next : Bool → Fetch)
  | copy (object : Nat) (update : Fields) (next : Nat → Fetch)
  /-- Request the children of an object with a fetch of its own. -/
  | get (object : Nat) (inner : Fetch) (next : Except Failure Stored → Fetch)

/-- Request the children of an object directly, given how the fetch is carried out. A request is answered
at once if it can be. Otherwise the fetch runs under the lock, and what it gives is stored if the cache is
still in the generation in which it began. -/
def Session.request (s : Session) (i : Nat)
    (carryOut : Session → Except Failure (List Child) × Session) : Except Failure Stored × Session :=
  match s.directAnswer? i with
  | some (source, answer) => (answer, s.record (.answered i s.now source answer))
  | none =>
      let (outcome, after) := carryOut (s.beginFetch i s.now .direct)
      after.finishFetch i .direct (s.ticket i s.now) outcome

namespace Fetch

/-- Run a fetch to its end. -/
def run : Fetch → Session → Except Failure (List Child) × Session
  | finish outcome, s => (outcome.result, s.note outcome.notices)
  | clear i next, s =>
      let (answer, s) := s.clear i
      (next answer).run s
  | peek i next, s =>
      let (populated, s) := s.peek i
      (next populated).run s
  | copy i update next, s =>
      let (number, s) := s.copy i update
      (next number).run s
  | get i inner next, s =>
      let (answer, s) := s.request i inner.run
      (next answer).run s

/-- Clear a cache and go on unless that fails. -/
def clearThen (object : Nat) (rest : Fetch) : Fetch :=
  .clear object fun answer =>
    match answer with
    | .ok _ => rest
    | .error failure => .finish (.fail failure)

/-- Request children and go on unless that fails. A tolerant fetch goes on after an ordinary failure,
too. -/
def getThen (object : Nat) (inner : Fetch) (tolerant : Bool) (rest : Fetch) : Fetch :=
  .get object inner fun answer =>
    match answer with
    | .ok _ => rest
    | .error failure => if tolerant && failure.ordinary then rest else .finish (.fail failure)

end Fetch

namespace Session

/-- Request the children of an object directly. -/
def get (s : Session) (i : Nat) (fetch : Fetch) : Except Failure Stored × Session :=
  s.request i fetch.run

/-- The answers to several requests that are made at the same time. The lock puts them in a row. -/
def getTogether (s : Session) (i : Nat) (fetch : Fetch) : Nat → List (Except Failure Stored) × Session
  | 0 => ([], s)
  | count + 1 =>
      let (answer, s) := s.get i fetch
      let (answers, s) := s.getTogether i fetch count
      (answer :: answers, s)

end Session

end Syscat
