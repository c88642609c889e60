import CallPolicy.Severity

namespace CallPolicy

/-!
# Settings

The settings of a run: where the project is, and which findings fail the run. They stand in
the table `engine` of a configuration.
-/

structure EngineSettings where
  /-- The project root, as spelled. -/
  root : String
  /-- The least severity that fails a run. -/
  failOn : Severity
  deriving DecidableEq, Repr

structure Settings where
  engine : EngineSettings
  deriving DecidableEq, Repr

namespace EngineSettings

def initial : EngineSettings := ⟨".", .error⟩

def fields : List Field := [.plain "root", .plain "fail-on"]

def toDatum (s : EngineSettings) : Datum :=
  .table [("root", .text s.root), ("fail-on", s.failOn.toDatum)]

def ofDatum? (conventions : Conventions) (d : Datum) : Option EngineSettings := do
  let record ← Record.read? conventions fields false d
  let root ← record.default? "root" initial.root Datum.text?
  let failOn ← record.default? "fail-on" initial.failOn (Severity.ofDatum? conventions)
  some { root, failOn }

end EngineSettings

namespace Settings

def initial : Settings := ⟨.initial⟩

def fields : List Field := [.plain "engine"]

def toDatum (s : Settings) : Datum :=
  .table [("engine", s.engine.toDatum)]

def ofDatum? (conventions : Conventions) (d : Datum) : Option Settings := do
  let record ← Record.read? conventions fields false d
  let engine ← record.default? "engine" .initial (EngineSettings.ofDatum? conventions)
  some { engine }

end Settings

end CallPolicy
