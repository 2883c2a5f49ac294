/-
Module: Syscat.Notice
Purpose: The notices that operations leave behind besides their result, and computations that collect
  them. A computation that fails keeps the notices it left before.
Main exports: Notice, Notice.level, Notice.message, Logged
-/
import Syscat.Failure

namespace Syscat

/-- The importance of a notice. -/
inductive NoticeLevel where
  | info
  | warning
deriving DecidableEq, Repr, Inhabited

/-- Something worth telling the operator. -/
inductive Notice where
  /-- A column that should hold an integer holds something else. -/
  | nonInteger (column literal : String)
  /-- A column that should hold a timestamp holds something else. -/
  | unparsableTimestamp (column literal : String)
  /-- An unknown code was replaced by a fallback. -/
  | downgraded (table literal column fallback : String)
  | skipped (index : Nat) (rowName : Option String) (message : String)
  | scanned (mapped total : Nat)
  | settingsLoaded (path settings : String)
  | fetchFailed (owner message : String)
deriving DecidableEq, Repr

namespace Notice

/-- Reports of success are information, everything else is a warning. -/
def level : Notice → NoticeLevel
  | scanned _ _ => .info
  | settingsLoaded _ _ => .info
  | _ => .warning

/-- The sign in front of a warning. -/
def warningSign : String := "\u26a0\ufe0f "

/-- The text of a notice. -/
def message : Notice → String
  | nonInteger column literal =>
      warningSign ++ "Non-integer value in column " ++ column ++ ": " ++ literal
  | unparsableTimestamp column literal =>
      warningSign ++ "Unparsable timestamp in column " ++ column ++ ": " ++ literal
  | downgraded table literal column fallback =>
      warningSign ++ "Unknown " ++ table ++ " literal " ++ literal ++ " in column " ++ column
        ++ ", downgraded to " ++ fallback
  | skipped index rowName message =>
      warningSign ++ "Skipping catalog row " ++ toString index ++ " (" ++ rowName.getD "None" ++ "): "
        ++ message
  | scanned mapped total =>
      "Mapped " ++ toString mapped ++ "/" ++ toString total ++ " catalog rows"
  | settingsLoaded path settings => "Loaded mapper settings from " ++ path ++ ": " ++ settings
  | fetchFailed owner message =>
      warningSign ++ "Fetching children of " ++ owner ++ " failed: " ++ message

end Notice

/-- A result and the notices left on the way to it. -/
structure Logged (α : Type) where
  notices : List Notice
  result : Except Failure α

namespace Logged

/-- A result without notices. -/
def ofExcept {α : Type} (result : Except Failure α) : Logged α := ⟨[], result⟩

/-- A failure without notices. -/
def fail {α : Type} (f : Failure) : Logged α := ⟨[], .error f⟩

/-- Run a computation on a condition, which gives nothing if the condition fails. -/
def onlyIf {α : Type} (condition : Bool) (x : Logged (Option α)) : Logged (Option α) :=
  if condition then x else ⟨[], .ok none⟩

/-- Leave a notice. -/
def note (n : Notice) : Logged Unit := ⟨[n], .ok ()⟩

/-- Go on with the result of a computation, unless it failed. -/
def bind {α β : Type} (x : Logged α) (f : α → Logged β) : Logged β :=
  match x.result with
  | .ok a => ⟨x.notices ++ (f a).notices, (f a).result⟩
  | .error e => ⟨x.notices, .error e⟩

instance : Monad Logged where
  pure a := ⟨[], .ok a⟩
  bind := Logged.bind

/-- Change the failure of a computation. -/
def mapFailure {α : Type} (f : Failure → Failure) (x : Logged α) : Logged α :=
  ⟨x.notices, x.result.mapError f⟩

end Logged

end Syscat
