/-
Module: Syscat.Settings.Loading
Purpose: Settings from a file. Without a file, and for a file that holds null, everything has its default.
  How deep a text may nest depends on the stack that is left for its reader, and so does the loading.
Main exports: DepthLimit, Settings.loadWithin, Settings.load, loadValue
-/
import Syscat.Document.File
import Syscat.Notice
import Syscat.Settings

namespace Syscat

/-- The value that a file holds. -/
def loadValue (file : File) : Except Failure Value :=
  file.read.mapError Failure.unreadable

/-! ### Depth -/

/-- How deep texts may nest: what is said of a text of a format that nests too deep for its reader's
stack. -/
abbrev DepthLimit := DocumentFormat → List Char → Option String

/-- A stack for texts of any depth. -/
def DepthLimit.unlimited : DepthLimit := fun _ _ => none

/-- What is said of a file whose text nests too deep. -/
def File.overrun? (limit : DepthLimit) (file : File) : Option String :=
  match file.source with
  | .ok (format, text) => limit format text
  | .error _ => none

/-- The failure to read a text that nests too deep. -/
def Failure.overrun (message : String) : Failure :=
  .signalled (.raised (.plain "RecursionError") [.text message])

/-! ### Settings -/

namespace Settings

/-- The settings that the value in a file stands for. -/
def ofValue (v : Value) : Except SettingsProblem Settings :=
  match v with
  | .null => (check []).mapError .rejected
  | .table entries => (check (Fields.ofEntries entries)).mapError .rejected
  | _ => .error .notTable

/-- The settings in a file, or why there are none. A failure that a reader of settings does not expect
stays what it is. -/
def ofFile (limit : DepthLimit) (file : File) : Except Failure Settings :=
  match file.overrun? limit with
  | some message => .error (.overrun message)
  | none =>
      match file.read with
      | .error e => .error (if e.expected then .settings file.path (.unreadable e) else .unreadable e)
      | .ok v => (ofValue v).mapError (Failure.settings file.path)

/-- Load settings on a stack of some depth. That a file was read is noted, together with what came of
it. -/
def loadWithin (limit : DepthLimit) (file : Option File) : Logged Settings :=
  match file with
  | none => pure standard
  | some file => do
      let settings ← Logged.ofExcept (ofFile limit file)
      Logged.note (.settingsLoaded file.path ((settings.toValue.literal?).getD ""))
      return settings

/-- Load settings. -/
def load (file : Option File) : Logged Settings :=
  loadWithin .unlimited file

end Settings

end Syscat
