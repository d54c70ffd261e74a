/-
# Log entries

What a run says about itself is a list of entries, each with a level and with the activity that it
comes from. Entries are values: whether and how they are shown is decided elsewhere, and no result
depends on them.
-/

namespace HeaderSearch.Log

/-- How important an entry is: something failed or was left out, a result, a step on the way to one,
or anything else. -/
inductive Level where
  | error
  | warn
  | info
  | debug
  | trace
  deriving DecidableEq, Repr

def Level.word : Level → String
  | .error => "ERROR"
  | .warn => "WARN"
  | .info => "INFO"
  | .debug => "DEBUG"
  | .trace => "TRACE"

/-- The rank of a level: the more important, the lower. -/
def Level.rank : Level → Nat
  | .error => 1
  | .warn => 2
  | .info => 3
  | .debug => 4
  | .trace => 5

/-- The activity that an entry comes from. -/
inductive Source where
  | scan
  | catalog
  | resolution
  | packages
  deriving DecidableEq, Repr

/-- The name under which the entries of an activity are shown and selected. -/
def Source.target : Source → String
  | .scan => "include_locator::scanner"
  | .catalog => "include_locator::catalog"
  | .resolution => "include_locator::resolver"
  | .packages => "include_locator::packages"

/-- One message of a run about itself. -/
structure Entry where
  source : Source
  level : Level
  message : String
  deriving DecidableEq, Repr

end HeaderSearch.Log
