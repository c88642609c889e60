import CallPolicy.Engine.Basic
import CallPolicy.Rule.Document
import CallPolicy.Settings

namespace CallPolicy

/-!
# Configurations

A configuration is a TOML text with the settings of a run and its rules.

* `loadSettings?` — the settings; the rules are not looked at.
* `Engine.start` — the engine of a root, rules and settings.
-/

/-- The settings in the text of a configuration. -/
def loadSettings? (text : String) : Option Settings :=
  Toml.parse? text.toList >>= Settings.ofDatum? .toml

/-- The engine at the root spelled `root`, or else at the root of the settings. -/
def Engine.start (workDir : String) (root : Option String) (rules : RuleSet)
    (settings : Settings) : Engine where
  root := .locate workDir (root.getD settings.engine.root)
  rules
  settings

end CallPolicy
