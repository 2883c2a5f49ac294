/-
Module: Syscat.Cache.Run
Purpose: Whole runs of a session: what a single caller does step by step, and rounds of tasks in between.
Main exports: Step, Session.steps, Phase, Session.play
-/
import Syscat.Cache.Task

namespace Syscat

/-- A step of a caller that makes no tasks. -/
inductive Step where
  | get (object : Nat) (fetch : Fetch)
  | clear (object : Nat)
  | peek (object : Nat)
  | copy (object : Nat) (update : Fields)

/-- A part of a run: steps of a single caller, or a round of tasks that go on in some order. Tasks that
have not ended with the round never go on. -/
inductive Phase where
  | steps (steps : List Step)
  | round (jobs : List Job) (moves : List Move)

namespace Session

def step (s : Session) : Step → Session
  | .get i fetch => (s.get i fetch).2
  | .clear i => (s.clear i).2
  | .peek i => (s.peek i).2
  | .copy i update => (s.copy i update).2

def steps (s : Session) (steps : List Step) : Session :=
  steps.foldl step s

def phase (s : Session) : Phase → Session
  | .steps steps => s.steps steps
  | .round jobs moves => ((TaskLoop.start jobs s).follow moves).session

def play (s : Session) (phases : List Phase) : Session :=
  phases.foldl phase s

end Session

end Syscat
