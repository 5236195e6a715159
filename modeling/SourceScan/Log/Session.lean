import SourceScan.Log.Filter
import SourceScan.Source.Load

/-!
# Log/Session — a log over a run of scans

A logger is installed once, with a configuration; installing again fails and changes nothing.  From
then on every event that passes the filter adds an entry, in the configured format.  A **session**
is a list of actions in any order: it installs a logger, or takes a step, which is the scan of a
source or of a reader; what a step results in does not look at the log.

* `Logger.install`, `Logger.write` — installing, and hearing an event.
* `Session.perform` — the installations, the results and the log of a session.
* `Session.run` — a session that installs with one configuration, and then takes its steps.
-/

namespace SourceScan.Log

/-- **A logger**: the configuration it was installed with, if it was, and its entries, latest
first. -/
structure Logger where
  installed : Option LogConfig := none
  entries : List Entry := []

/-- **Why a logger is not installed**: one already is. -/
inductive InstallError where
  | alreadyInstalled
deriving DecidableEq, Repr

/-- The wording of an install error. -/
def InstallError.message : InstallError → String
  | alreadyInstalled =>
    "failed to install logger: a global default trace dispatcher has already been set"

namespace Logger

/-- **Installing**: the first configuration stays. -/
def install (logger : Logger) (config : LogConfig) : Except InstallError Logger :=
  match logger.installed with
  | some _ => .error .alreadyInstalled
  | none => .ok { logger with installed := some config }

/-- **Hearing an event**: it is written down if a logger is installed and its filter lets the event
pass. -/
def write (logger : Logger) (event : Event) : Logger :=
  match logger.installed with
  | none => logger
  | some config =>
    if (Filter.ofConfig config).passes event then
      { logger with entries := .ofEvent config.format event :: logger.entries }
    else logger

end Logger

/-- **A step of a session**: a source or a reader to scan. -/
inductive Step where
  | source (text : String)
  | reader (reader : Reader)

/-- What comes of a step: the tokens, or why there are none. -/
def Step.outcome : Step → Outcome ScanError (List SpannedToken)
  | .source text =>
    let scanning := Lex.scanSource text
    ⟨scanning.result.mapError .lex, scanning.events⟩
  | .reader input => scanReader {} input

/-- **An action of a session.** -/
inductive Action where
  | install (config : LogConfig)
  | take (step : Step)

/-- **The state of a session**: its logger, and the installations and results so far, latest
first. -/
structure Session where
  logger : Logger := {}
  installs : List (Except InstallError Unit) := []
  results : List (Except ScanError (List SpannedToken)) := []

namespace Session

/-- One attempt to install the logger. -/
def install (session : Session) (config : LogConfig) : Session :=
  match session.logger.install config with
  | .ok logger => { session with logger := logger, installs := .ok () :: session.installs }
  | .error error => { session with installs := .error error :: session.installs }

/-- One step taken. -/
def take (session : Session) (step : Step) : Session :=
  let outcome := step.outcome
  { session with
    logger := outcome.events.foldl Logger.write session.logger
    results := outcome.result :: session.results }

/-- One action. -/
def act (session : Session) : Action → Session
  | .install config => session.install config
  | .take step => session.take step

/-- **A session goes on** with some actions. -/
def perform (session : Session) (actions : List Action) : Session := actions.foldl act session

/-- **A session of one configuration**: a number of installations with it, and then the steps. -/
def run (config : LogConfig) (installs : Nat) (steps : List Step) : Session :=
  perform {} (List.replicate installs (.install config) ++ steps.map .take)

/-- The installations of a session, in order. -/
def installed (session : Session) : List (Except InstallError Unit) := session.installs.reverse

/-- The results of a session, in order. -/
def answers (session : Session) : List (Except ScanError (List SpannedToken)) :=
  session.results.reverse

/-- The log of a session, in order. -/
def log (session : Session) : List Entry := session.logger.entries.reverse

end Session

end SourceScan.Log
