import Scanout.Text.Terminal

/-!
# Log records

Every part of the program tells what it does through a log.  A record has a level, the part it comes
from and a text; a limit lets through the records up to a level.

## Main definitions

* `Level` — the five levels, from the gravest
* `Origin` — the parts that write records, each with the target that filters match
* `Record` — one record
* `Level.within` — whether a limit lets a level through
* `Record.written` — a record as it stands in the written log
-/

namespace Scanout.Log

/-- How grave a record is. -/
inductive Level where
  | error
  | warn
  | info
  | debug
  | trace
  deriving DecidableEq, Repr

namespace Level

/-- The gravest level has the least rank. -/
def rank : Level → Nat
  | error => 1
  | warn => 2
  | info => 3
  | debug => 4
  | trace => 5

/-- The name of a level, in lower case. -/
def name : Level → String
  | error => "error"
  | warn => "warn"
  | info => "info"
  | debug => "debug"
  | trace => "trace"

def all : List Level := [error, warn, info, debug, trace]

/-- **Whether a limit lets a level through.**  The limit `none` lets nothing through. -/
def within (level : Level) : Option Level → Bool
  | none => false
  | some limit => decide (level.rank ≤ limit.rank)

end Level

/-- The part of the program that a record comes from. -/
inductive Origin where
  | program
  | configuration
  | input
  | driver
  | slot
  | headless
  | panelLibrary
  | systemEgl
  | signals
  deriving DecidableEq, Repr

/-- The target by which a filter knows an origin. -/
def Origin.target : Origin → String
  | program => "kms_context"
  | configuration => "kms_context::config"
  | input => "kms_context::input"
  | driver => "kms_context::display::drivers::kms"
  | slot => "kms_context::display::manager"
  | headless => "kms_context::platform::backends::headless"
  | panelLibrary => "kms_context::platform::backends::go2"
  | systemEgl => "kms_context::platform::backends::egl"
  | signals => "kms_context::platform::os::signals"

/-- **One log record.** -/
structure Record where
  level : Level
  origin : Origin
  text : String
  deriving DecidableEq, Repr

namespace Record

/-- A record as one line: its level and its text. -/
def line (r : Record) : String := r.level.name ++ ": " ++ r.text

/-- A text whose lines from the second on are indented. -/
def indented (text : String) : List Char :=
  text.toList.flatMap fun c => if c = '\n' then ['\n', ' ', ' ', ' ', ' '] else [c]

/-- **A record as it stands in the written log**: its level, its text with the later lines indented,
and a line end, without anything that a terminal would obey. -/
def written (r : Record) : String :=
  String.ofList
    (Text.Terminal.plain (r.level.name.toList ++ ':' :: ' ' :: (indented r.text ++ ['\n'])))

end Record

end Scanout.Log
