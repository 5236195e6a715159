import Mathlib.Data.List.Basic
import SourceScan.Log.Session

/-!
# Proofs/Log/Session — what a log holds of a session

A log never speaks back: what comes of a step is the same whatever is heard.  The first
installation decides what is heard and how it is written, and the later ones nothing; what is heard
of all that happens is what is no more detailed than the level of the lexer, since every event is
one of the lexer's.

* `Filter.passes_ofConfig` — what the filter of a configuration lets pass.
* `Logger.foldl_write` — what an installed logger writes of some events.
* `Session.perform_of_installed` — what an installed session makes of any actions.
* `Session.perform_later_install` — a later installation changes neither log nor results.
* `Session.run_succ` — a session of one configuration in which the logger is installed.
* `Session.log_session` — the law of the log.
-/

namespace SourceScan

open Log

/-- At the lexer's target the level is that of the lexer. -/
theorem LogConfig.levelFor_lexerTarget (config : LogConfig) :
    config.levelFor lexerTarget = config.lexerLevel := if_pos (Or.inl rfl)

namespace Log

/-- Every event is one of the lexer's. -/
theorem Event.lexerTarget_isPrefix (event : Event) :
    lexerTarget.toList <+: event.target.toList := by
  cases event with
  | unreadable fault => exact ⟨"::stream".toList, String.toList_append.symm⟩
  | undecodable offset => exact ⟨"::stream".toList, String.toList_append.symm⟩
  | _ => exact ⟨"::scanner".toList, String.toList_append.symm⟩

/-- **What the filter of a configuration lets pass**: what the level of the lexer hears. -/
theorem Filter.passes_ofConfig (config : LogConfig) (event : Event) :
    (Filter.ofConfig config).passes event = config.lexerLevel.hears event.severity := by
  rw [passes, enables, levelFor, if_pos event.lexerTarget_isPrefix, ofConfig,
    LogConfig.levelFor_lexerTarget]

/-- The loudest level hears everything. -/
theorem Level.hears_trace (severity : Severity) : Level.trace.hears severity = true := by
  cases severity <;> rfl

/-- A louder level hears what a quieter one does. -/
theorem Level.hears_of_le {level louder : Level} (le : level.rank ≤ louder.rank)
    {severity : Severity} (heard : level.hears severity = true) :
    louder.hears severity = true :=
  decide_eq_true (Nat.le_trans (of_decide_eq_true heard) le)

/-- **The entries of some events** that a level hears, in a format. -/
def heard (level : Level) (format : Format) (events : List Event) : List Entry :=
  (events.filter fun event => level.hears event.severity).map (Entry.ofEvent format)

theorem heard_cons (level : Level) (format : Format) (event : Event) (events : List Event) :
    heard level format (event :: events) =
      (if level.hears event.severity then [.ofEvent format event] else []) ++
        heard level format events := by
  rw [heard, heard, List.filter_cons]
  split <;> rfl

/-- Everything is heard at the loudest level. -/
theorem heard_trace (format : Format) (events : List Event) :
    heard .trace format events = events.map (Entry.ofEvent format) := by
  rw [heard, List.filter_eq_self.mpr fun event _ => Level.hears_trace event.severity]

/-- **What a quieter level hears is part of what a louder one does**, in the same order. -/
theorem heard_sublist {level louder : Level} (le : level.rank ≤ louder.rank) (format : Format)
    (events : List Event) : (heard level format events).Sublist (heard louder format events) :=
  (List.monotone_filter_right events fun _ => Level.hears_of_le le).map _

namespace Logger

/-- **An installed logger writes what it hears**, the latest first. -/
theorem foldl_write {logger : Logger} {config : LogConfig}
    (installed : logger.installed = some config) (events : List Event) :
    events.foldl write logger = { logger with
      entries := (heard config.lexerLevel config.format events).reverse ++ logger.entries } := by
  induction events generalizing logger with
  | nil => rfl
  | cons event events ih =>
    have written : logger.write event = if config.lexerLevel.hears event.severity then
        { logger with entries := .ofEvent config.format event :: logger.entries } else logger := by
      rw [write, installed, ← Filter.passes_ofConfig]
    rw [List.foldl_cons, written, heard_cons, List.reverse_append, List.append_assoc]
    by_cases loud : config.lexerLevel.hears event.severity = true
    · rw [if_pos loud, if_pos loud]
      exact ih installed
    · rw [if_neg loud, if_neg loud]
      exact ih installed

/-- A logger that is not installed writes nothing. -/
theorem foldl_write_of_none {logger : Logger} (none : logger.installed = none)
    (events : List Event) : events.foldl write logger = logger := by
  induction events with
  | nil => rfl
  | cons event events ih => rwa [List.foldl_cons, write, none]

end Logger

/-! ## Sessions -/

/-- **All that happens** in some steps. -/
def Step.eventsOf (steps : List Step) : List Event := steps.flatMap fun step => step.outcome.events

/-- What comes of some steps. -/
def Step.resultsOf (steps : List Step) : List (Except ScanError (List SpannedToken)) :=
  steps.map fun step => step.outcome.result

theorem Step.eventsOf_cons (step : Step) (steps : List Step) :
    eventsOf (step :: steps) = step.outcome.events ++ eventsOf steps := List.flatMap_cons

theorem Step.resultsOf_append (steps more : List Step) :
    resultsOf (steps ++ more) = resultsOf steps ++ resultsOf more := List.map_append

theorem Step.reverse_resultsOf_cons (step : Step) (steps : List Step) :
    (resultsOf (step :: steps)).reverse = (resultsOf steps).reverse ++ [step.outcome.result] :=
  List.reverse_cons

/-- The step of an action, if it takes one. -/
def Action.step? : Action → Option Step
  | .install _ => none
  | .take step => some step

/-- **The steps among some actions.** -/
def Action.stepsOf (actions : List Action) : List Step := actions.filterMap step?

/-- **How many of some actions install** a logger. -/
def Action.installs (actions : List Action) : Nat :=
  actions.countP fun action => action.step?.isNone

/-- **Some actions** are steps alone, or steps, the first installation, and what follows it. -/
theorem Action.steps_or_install (actions : List Action) :
    (∃ steps : List Step, actions = steps.map .take) ∨
      ∃ (before : List Step) (config : LogConfig) (after : List Action),
        actions = before.map .take ++ .install config :: after := by
  induction actions with
  | nil => exact .inl ⟨[], rfl⟩
  | cons action actions ih =>
    cases action with
    | install config => exact .inr ⟨[], config, actions, rfl⟩
    | take step =>
      obtain ⟨steps, rfl⟩ | ⟨before, config, after, rfl⟩ := ih
      · exact .inl ⟨step :: steps, rfl⟩
      · exact .inr ⟨step :: before, config, after, rfl⟩

theorem Action.stepsOf_map_take (steps : List Step) : stepsOf (steps.map .take) = steps := by
  induction steps with
  | nil => rfl
  | cons step steps ih => exact congrArg (step :: ·) ih

theorem Action.installs_map_take (steps : List Step) : installs (steps.map .take) = 0 := by
  simp [installs, step?]

/-- Some installations, and then some steps. -/
theorem Action.stepsOf_installs_then_steps (config : LogConfig) (more : Nat) (steps : List Step) :
    stepsOf (List.replicate more (.install config) ++ steps.map .take) = steps ∧
      installs (List.replicate more (.install config) ++ steps.map .take) = more := by
  induction more with
  | zero => exact ⟨stepsOf_map_take steps, installs_map_take steps⟩
  | succ more ih =>
    rw [List.replicate_succ, List.cons_append]
    exact ⟨ih.1, (List.countP_cons_of_pos rfl).trans (congrArg (· + 1) ih.2)⟩

namespace Session

theorem perform_append (session : Session) (first others : List Action) :
    session.perform (first ++ others) = (session.perform first).perform others :=
  List.foldl_append

/-- **Steps** add their results and tell the logger what happens. -/
theorem perform_steps (session : Session) (steps : List Step) :
    session.perform (steps.map .take) = { session with
      logger := (Step.eventsOf steps).foldl Logger.write session.logger
      results := (Step.resultsOf steps).reverse ++ session.results } := by
  induction steps generalizing session with
  | nil => rfl
  | cons step steps ih =>
    have goes : session.perform ((step :: steps).map .take) =
        (session.take step).perform (steps.map .take) := rfl
    rw [goes, ih, Step.eventsOf_cons, Step.reverse_resultsOf_cons, List.foldl_append,
      List.append_assoc]
    rfl

/-- **Installing again** is refused and changes nothing else. -/
theorem install_of_installed {session : Session} {first : LogConfig}
    (installed : session.logger.installed = some first) (config : LogConfig) :
    session.install config = { session with
      installs := .error .alreadyInstalled :: session.installs } := by
  rw [install, Logger.install, installed]

/-- **A logger that is installed stays so**, whatever is done. -/
theorem installed_act {session : Session} {first : LogConfig}
    (installed : session.logger.installed = some first) (action : Action) :
    (session.act action).logger.installed = some first := by
  cases action with
  | install config =>
    rw [act, install_of_installed installed]
    exact installed
  | take step =>
    rw [act, take, Logger.foldl_write installed]
    exact installed

/-- **With a logger installed** every further installation is refused, with whatever configuration
and wherever among the steps, and all the rest is that of the steps. -/
theorem perform_of_installed {session : Session} {first : LogConfig}
    (installed : session.logger.installed = some first) (actions : List Action) :
    session.perform actions = {
      logger := (Step.eventsOf (Action.stepsOf actions)).foldl Logger.write session.logger
      installs := List.replicate (Action.installs actions) (.error .alreadyInstalled) ++
        session.installs
      results := (Step.resultsOf (Action.stepsOf actions)).reverse ++ session.results } := by
  induction actions generalizing session with
  | nil => rfl
  | cons action actions ih =>
    have goes : session.perform (action :: actions) = (session.act action).perform actions := rfl
    rw [goes, ih (installed_act installed action)]
    cases action with
    | install config =>
      have more : Action.installs (.install config :: actions) = Action.installs actions + 1 :=
        List.countP_cons_of_pos rfl
      rw [act, install_of_installed installed, more, List.replicate_succ', List.append_assoc]
      rfl
    | take step =>
      have same : Action.installs (.take step :: actions) = Action.installs actions :=
        List.countP_cons_of_neg Bool.false_ne_true
      have steps : Action.stepsOf (.take step :: actions) = step :: Action.stepsOf actions := rfl
      rw [same, steps, Step.eventsOf_cons, Step.reverse_resultsOf_cons, List.foldl_append,
        List.append_assoc]
      rfl

/-- **A session without a logger.** -/
theorem perform_steps_start (steps : List Step) :
    perform {} (steps.map .take) = { results := (Step.resultsOf steps).reverse } := by
  have none : Logger.installed {} = none := rfl
  rw [perform_steps, Logger.foldl_write_of_none none, List.append_nil]

/-- **A session with a logger**: steps that are not heard, the installation, and any actions behind
it. -/
theorem perform_install (before : List Step) (config : LogConfig) (after : List Action) :
    perform {} (before.map .take ++ .install config :: after) = {
      logger := ⟨some config,
        (heard config.lexerLevel config.format (Step.eventsOf (Action.stepsOf after))).reverse⟩
      installs := List.replicate (Action.installs after) (.error .alreadyInstalled) ++ [.ok ()]
      results := (Step.resultsOf (before ++ Action.stepsOf after)).reverse } := by
  have first (session : Session) : session.perform (.install config :: after) =
      (session.install config).perform after := rfl
  have installed :
      (install { results := (Step.resultsOf before).reverse } config).logger.installed =
        some config := rfl
  rw [perform_append, perform_steps_start, first, perform_of_installed installed,
    Logger.foldl_write installed, Step.resultsOf_append, List.reverse_append]
  simp only [install, Logger.install, List.append_nil]

/-- **A later installation** is refused, with whatever configuration and wherever among the steps,
and changes neither the log nor the results. -/
theorem perform_later_install {before : List Action} (first : Action.installs before ≠ 0)
    (config : LogConfig) (after : List Action) :
    (perform {} (before ++ .install config :: after)).log = (perform {} (before ++ after)).log ∧
      (perform {} (before ++ .install config :: after)).answers =
        (perform {} (before ++ after)).answers ∧
      (perform {} (before ++ [.install config])).installed =
        (perform {} before).installed ++ [.error .alreadyInstalled] := by
  obtain ⟨own, installed⟩ : ∃ own, (perform {} before).logger.installed = some own := by
    obtain ⟨steps, rfl⟩ | ⟨earlier, own, rest, rfl⟩ := Action.steps_or_install before
    · exact absurd (Action.installs_map_take steps) first
    · exact ⟨own, by rw [perform_install]⟩
  have again (others : List Action) :
      perform {} (before ++ others) = (perform {} before).perform others := perform_append _ _ _
  have steps : Action.stepsOf (.install config :: after) = Action.stepsOf after := rfl
  refine ⟨?_, ?_, ?_⟩
  · rw [log, log, again, again, perform_of_installed installed, perform_of_installed installed,
      steps]
  · rw [answers, answers, again, again, perform_of_installed installed,
      perform_of_installed installed, steps]
  · rw [Session.installed, Session.installed, again, perform_of_installed installed]
    exact List.reverse_cons

/-- A session of one configuration without an installation. -/
theorem run_zero (config : LogConfig) (steps : List Step) :
    run config 0 steps = { results := (Step.resultsOf steps).reverse } :=
  perform_steps_start steps

/-- A session of one configuration, installed once, and refused some more times. -/
theorem run_succ (config : LogConfig) (more : Nat) (steps : List Step) :
    run config (more + 1) steps = {
      logger := ⟨some config,
        (heard config.lexerLevel config.format (Step.eventsOf steps)).reverse⟩
      installs := List.replicate more (.error .alreadyInstalled) ++ [.ok ()]
      results := (Step.resultsOf steps).reverse } := by
  have split : List.replicate (more + 1) (Action.install config) ++ steps.map .take =
      ([] : List Step).map .take ++
        .install config :: (List.replicate more (.install config) ++ steps.map .take) := rfl
  obtain ⟨only, count⟩ := Action.stepsOf_installs_then_steps config more steps
  rw [run, split, perform_install, only, count, List.nil_append]

/-- **The log of a session with a logger** holds what the level of the lexer hears. -/
theorem log_run_succ (config : LogConfig) (more : Nat) (steps : List Step) :
    (run config (more + 1) steps).log =
      heard config.lexerLevel config.format (Step.eventsOf steps) := by
  rw [run_succ, log, List.reverse_reverse]

/-- What comes of the steps does not depend on the log. -/
theorem answers_run (config : LogConfig) (installs : Nat) (steps : List Step) :
    (run config installs steps).answers = Step.resultsOf steps := by
  cases installs with
  | zero => rw [run_zero, answers, List.reverse_reverse]
  | succ more => rw [run_succ, answers, List.reverse_reverse]

/-- **The law of the log.**  What comes of the steps is the same as without a logger.  The first
installation succeeds and all others are refused, which changes neither results nor log.  In every
format, the log holds of all that happens, in its order, what is no more detailed than the level of
the lexer, which is everything if that is the loudest; without an installation it is empty.  So a
quieter log is part of a louder one in the same format, and where the lexer has a level of its own
the level of everything else makes no difference. -/
theorem log_session (config : LogConfig) (steps : List Step) :
    (∀ installs, (run config installs steps).answers = (run config 0 steps).answers ∧
      (run config installs steps).answers = Step.resultsOf steps) ∧
    ((run config 0 steps).installed = [] ∧ (run config 0 steps).log = []) ∧
    (∀ more, (run config (more + 1) steps).installed =
        .ok () :: List.replicate more (.error .alreadyInstalled) ∧
      (run config (more + 1) steps).log = (run config 1 steps).log) ∧
    (∀ format, (run { config with format := format } 1 steps).log =
      ((Step.eventsOf steps).filter fun event =>
        event.severity.rank ≤ (config.lexer.getD config.global).rank).map
          (Entry.ofEvent format)) ∧
    (config.lexer.getD config.global = .trace → ∀ format,
      (run { config with format := format } 1 steps).log =
        (Step.eventsOf steps).map (Entry.ofEvent format)) ∧
    (∀ louder : LogConfig, louder.format = config.format →
      (config.lexer.getD config.global).rank ≤ (louder.lexer.getD louder.global).rank →
        (run config 1 steps).log.Sublist (run louder 1 steps).log) ∧
    (∀ level, config.lexer = some level → ∀ global,
      (run { config with global := global } 1 steps).log = (run config 1 steps).log) := by
  refine ⟨fun installs => ?_, ?_, fun more => ?_, fun format => ?_, fun loud format => ?_,
    fun louder same le => ?_, fun level own global => ?_⟩
  · rw [answers_run, answers_run]
    exact ⟨rfl, rfl⟩
  · rw [run_zero]
    exact ⟨rfl, rfl⟩
  · refine ⟨?_, by rw [log_run_succ, log_run_succ]⟩
    rw [run_succ, installed, List.reverse_append, List.reverse_replicate]
    rfl
  · rw [log_run_succ]
    rfl
  · have level : ({ config with format := format } : LogConfig).lexerLevel = .trace := loud
    rw [log_run_succ, level, heard_trace]
  · rw [log_run_succ, log_run_succ, same]
    exact heard_sublist le _ _
  · have level (config : LogConfig) (own : config.lexer = some level) :
        config.lexerLevel = level := by rw [LogConfig.lexerLevel, own, Option.getD_some]
    rw [log_run_succ, log_run_succ, level config own, level { config with global := global } own]

/-- A source that fails and one that does not: a quiet log holds the warning, and one in which the
lexer has its own level holds more, whatever the level of all else. -/
theorem log_session_levels :
    let steps := [Step.source "#", .source "x"]
    let quiet : LogConfig := ⟨.warn, none, .compact⟩
    let loud : LogConfig := ⟨.off, some .debug, .compact⟩
    (run quiet 1 steps).log.Sublist (run loud 1 steps).log ∧
      (run { loud with global := .trace } 1 steps).log = (run loud 1 steps).log ∧
      (run ⟨.trace, none, .json⟩ 1 steps).log =
        (Step.eventsOf steps).map (Entry.ofEvent .json) ∧
      (run quiet 1 steps).log =
        [.ofEvent .compact (.aborted ⟨.unrecognized '#', ⟨1, 1, 0⟩⟩)] := by
  intro steps quiet loud
  obtain ⟨-, -, -, written, -, louder, -⟩ := log_session quiet steps
  obtain ⟨-, -, -, -, -, -, own⟩ := log_session loud steps
  obtain ⟨-, -, -, -, all, -⟩ := log_session ⟨.trace, none, .pretty⟩ steps
  exact ⟨louder loud rfl (by decide), own .debug rfl .trace, all rfl .json, written .compact⟩

end Session

end Log

end SourceScan
