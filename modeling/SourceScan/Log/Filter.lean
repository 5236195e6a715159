import SourceScan.Config.Basic

/-!
# Log/Filter — which events a log holds

A **target** is a path of names, such as `gfn::lexer::scanner`.  Two rules say how loud a target
may be, and they are not quite the same:

* `LogConfig.levelFor` — the lexer's level holds for the lexer's target and for the paths below it.
* `Filter.levelFor` — the filter of a log compares targets as plain texts, so that it takes any
  target that begins with the text of the lexer's one for a part of the lexer.
-/

namespace SourceScan

/-- **The level of a target**: that of the lexer for the lexer's target and the paths below it. -/
def LogConfig.levelFor (config : LogConfig) (target : String) : Log.Level :=
  if target = Log.lexerTarget ∨ (Log.lexerTarget ++ "::").toList <+: target.toList then
    config.lexerLevel
  else config.global

namespace Log

/-- **A filter**: a level for the lexer, and one for everything else. -/
structure Filter where
  lexer : Level
  default : Level
deriving DecidableEq, Repr

namespace Filter

/-- The filter of a configuration. -/
def ofConfig (config : LogConfig) : Filter := ⟨config.levelFor lexerTarget, config.global⟩

/-- **The level of a target**: the lexer's for every target that begins with the lexer's text. -/
def levelFor (filter : Filter) (target : String) : Level :=
  if lexerTarget.toList <+: target.toList then filter.lexer else filter.default

/-- The filter lets an event of a severity pass at a target. -/
def enables (filter : Filter) (target : String) (severity : Severity) : Bool :=
  (filter.levelFor target).hears severity

/-- The filter lets an event pass. -/
def passes (filter : Filter) (event : Event) : Bool := filter.enables event.target event.severity

/-- The severities that pass at a target, the gravest first. -/
def enabled (filter : Filter) (target : String) : List Severity :=
  Severity.all.filter (filter.enables target)

/-- **The text of a filter**: the rule of the lexer, then the default. -/
def text (filter : Filter) : String :=
  lexerTarget ++ "=" ++ filter.lexer.name ++ "," ++ filter.default.name

end Filter

end Log

end SourceScan
