/-
Module: Syscat.Signal
Purpose: Failures that a caller's own code signals: a naming rule, a formatter or a fetch. A signal has a
  kind and arguments, from which its message is made.
Main exports: Signal, SignalKind, Signal.message?, Signal.ordinary, systemSignal
-/
import Syscat.Value

namespace Syscat

/-- The kind of a signal, as far as its message and its treatment depend on it. -/
inductive SignalKind where
  /-- A failure without rules of its own. -/
  | plain (name : String)
  /-- A failed look-up, whose single argument is the key. -/
  | lookup
  /-- A failure of the operating system, whose first two arguments are its number and its reason. -/
  | system (name : String)
  /-- The end of a sequence. -/
  | exhausted
  /-- A request to stop, which is no ordinary failure and is never handled. -/
  | interrupt (name : String)
deriving DecidableEq, Repr, Inhabited

/-- A failure signalled by a caller's code. A caller may also signal the library's own failures of
mapping and of fetching. -/
inductive Signal where
  | raised (kind : SignalKind) (args : List Value)
  | mapping (message : Value)
  | fetch (name reason : Value)
deriving Repr, Inhabited

/-- The name of a failure of the operating system with a number of its own. -/
def systemName? : Int → Option String
  | 1 => some "PermissionError"
  | 2 => some "FileNotFoundError"
  | 3 => some "ProcessLookupError"
  | 4 => some "InterruptedError"
  | 10 => some "ChildProcessError"
  | 11 => some "BlockingIOError"
  | 13 => some "PermissionError"
  | 17 => some "FileExistsError"
  | 20 => some "NotADirectoryError"
  | 21 => some "IsADirectoryError"
  | 32 => some "BrokenPipeError"
  | 103 => some "ConnectionAbortedError"
  | 104 => some "ConnectionResetError"
  | 108 => some "BrokenPipeError"
  | 110 => some "TimeoutError"
  | 111 => some "ConnectionRefusedError"
  | 114 => some "BlockingIOError"
  | 115 => some "BlockingIOError"
  | _ => none

/-- A failure of the operating system, named after its number if that has a name. -/
def systemSignal (args : List Value) : Signal :=
  let name :=
    match args with
    | .integer n :: _ :: rest => if rest.length ≤ 3 then (systemName? n).getD "OSError" else "OSError"
    | _ => "OSError"
  .raised (.system name) args

namespace Signal

/-- Ordinary failures are handled where they arise; requests to stop pass through everything. -/
def ordinary : Signal → Bool
  | raised (.interrupt _) _ => false
  | _ => true

/-- The message of arguments without rules of their own: nothing, the text of a single argument, or the
literal form of them all. -/
def argsMessage? : List Value → Option String
  | [] => some ""
  | [arg] => arg.text?
  | args => (Value.tuple args).literal?

/-- What a failure of the operating system says about paths: the one that it met, and behind another
argument the one that this was to become. -/
def pathMessage? : List Value → Option String
  | [] => some ""
  | .null :: _ => some ""
  | path :: rest => do
      let path ← path.literal?
      match rest with
      | [_, .null] => return ": " ++ path
      | [_, target] => return ": " ++ path ++ " -> " ++ (← target.literal?)
      | _ => return ": " ++ path

/-- The message of a failure of the operating system. With two to five arguments the first ones are its
number, its reason and its paths. -/
def systemMessage? (args : List Value) : Option String :=
  match args with
  | number :: reason :: paths =>
      if paths.length ≤ 3 then do
        return "[Errno " ++ (← number.text?) ++ "] " ++ (← reason.text?) ++ (← pathMessage? paths)
      else argsMessage? args
  | args => argsMessage? args

/-- The message of a signal, if its arguments have a text. -/
def message? : Signal → Option String
  | raised .lookup [key] => key.literal?
  | raised (.system _) args => systemMessage? args
  | raised _ args => argsMessage? args
  | mapping message => message.text?
  | fetch name reason => do
      return "Failed to fetch parameters of " ++ (← name.text?) ++ ": " ++ (← reason.text?)

end Signal

end Syscat
