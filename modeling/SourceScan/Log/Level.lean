/-!
# Log/Level — how loud an event is, and how much is heard

An event has a **severity**; a **level** says which severities are heard, from `off` (none) to
`trace` (all).  Both are ranked by loudness, and a level hears the severities of its own rank and
below.
-/

namespace SourceScan.Log

/-- **The severity** of an event, from the gravest to the most detailed. -/
inductive Severity where
  | error
  | warn
  | info
  | debug
  | trace
deriving DecidableEq, Repr

/-- **A level**, from the quietest to the loudest. -/
inductive Level where
  | off
  | error
  | warn
  | info
  | debug
  | trace
deriving DecidableEq, Repr

/-- The rank of a severity, the gravest first. -/
def Severity.rank : Severity → Nat
  | error => 1
  | warn => 2
  | info => 3
  | debug => 4
  | trace => 5

/-- The name of a severity. -/
def Severity.name : Severity → String
  | error => "ERROR"
  | warn => "WARN"
  | info => "INFO"
  | debug => "DEBUG"
  | trace => "TRACE"

/-- All severities, the gravest first. -/
def Severity.all : List Severity := [error, warn, info, debug, trace]

namespace Level

/-- The rank of a level: that of the most detailed severity it hears. -/
def rank : Level → Nat
  | off => 0
  | error => 1
  | warn => 2
  | info => 3
  | debug => 4
  | trace => 5

/-- The name of a level. -/
def name : Level → String
  | off => "off"
  | error => "error"
  | warn => "warn"
  | info => "info"
  | debug => "debug"
  | trace => "trace"

/-- All levels, the quietest first. -/
def all : List Level := [off, error, warn, info, debug, trace]

/-- **Levels are ordered by loudness.** -/
def order (left right : Level) : Ordering := compare left.rank right.rank

/-- **A level hears a severity** of its own rank or below. -/
def hears (level : Level) (severity : Severity) : Bool := decide (severity.rank ≤ level.rank)

/-- Levels of one rank are one level. -/
theorem rank_injective {left right : Level} (same : left.rank = right.rank) : left = right := by
  revert same
  cases left <;> cases right <;> decide

end Level

end SourceScan.Log
