import Switchboard.Config.Decode
import Switchboard.Config.Validation
import Switchboard.Files
import Switchboard.Toml.Document

/-!
# Loading a configuration

A configuration is the text of a document, usually in a file. It is refused if the file cannot be
read, if the text is no document, if a value does not fit its setting, or if a rule is violated.
-/

namespace Switchboard

/-- The reasons for which a configuration is refused. -/
inductive ConfigError where
  /-- The file cannot be read. -/
  | unreadable (source : SystemError)
  /-- The text is no document. -/
  | malformed
  /-- A value does not fit its setting. -/
  | misfit (source : MisfitError)
  /-- Rules are violated. -/
  | invalid (violations : List Violation)
  deriving DecidableEq, Repr

namespace Config

/-- Accepts a configuration that violates no rule. -/
def validated (c : Config) : Except ConfigError Config :=
  if c.violations.isEmpty then .ok c else .error (.invalid c.violations)

/-- The configuration a tree of settings describes, before any rule is checked. -/
def ofEntries (entries : Toml.Entries) : Except ConfigError Config :=
  match Decode.config.setAll {} entries with
  | .ok c => .ok c
  | .error e => .error (.misfit e)

/-- The configuration a text describes. -/
def parse (text : String) : Except ConfigError Config := do
  match Toml.read? text with
  | none => .error .malformed
  | some entries => do validated (← ofEntries entries)

/-- The configuration in a file. -/
def load (files : Files) (path : String) : Except ConfigError Config :=
  match files.readText path with
  | .error e => .error (.unreadable e)
  | .ok text => parse text

end Config

end Switchboard
