import Seedbed.Text.Terminal

/-!
# The log

What the parts of the program say about their work while they are at it. A line has a level, the part that it comes from, and
a text; lines are values, which an operation hands back in their order together with its result. Where a line is written, its text
is kept from acting on a terminal.
-/

namespace Seedbed

/-- How much a line matters, from the least on. -/
inductive Level where
  | trace | debug | info | warn | error
  deriving DecidableEq, Repr

/-- The rank of a level: the more a line matters, the higher it is. -/
def Level.rank : Level → Nat
  | .trace => 0
  | .debug => 1
  | .info => 2
  | .warn => 3
  | .error => 4

/-- The name of a level. -/
def Level.name : Level → String
  | .trace => "TRACE"
  | .debug => "DEBUG"
  | .info => "INFO"
  | .warn => "WARN"
  | .error => "ERROR"

/-- The parts of the program that write to the log. -/
inductive Source where
  | program | seeder | verifier | memory | server
  deriving DecidableEq, Repr

/-- The name by which a part is chosen in a filter of the log and shown in its lines. -/
def Source.target : Source → String
  | .program => "cdc_fixture_seed"
  | .seeder => "cdc_fixture_seed::seeder"
  | .verifier => "cdc_fixture_seed::verify"
  | .memory => "fixture_store::memory"
  | .server => "fixture_mongodb::store"

/-- A line of the log. -/
structure LogLine where
  level : Level
  source : Source
  text : String
  deriving DecidableEq, Repr

/-- A line with its level and without the part it comes from. -/
def LogLine.short (line : LogLine) : String := line.level.name ++ " " ++ Text.spellOut line.text

/-- A line with its level and the part it comes from. -/
def LogLine.render (line : LogLine) : String :=
  line.level.name ++ " " ++ line.source.target ++ ": " ++ Text.spellOut line.text

end Seedbed
