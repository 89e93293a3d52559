/-!
# Log events

An event has a level, a fixed message and named fields, whose values are texts.
-/

namespace TtlStore

/-- How much an event matters. -/
inductive Level where
  | trace
  | debug
  | info
deriving DecidableEq

/-- The name of a level. -/
def Level.name : Level → String
  | .trace => "TRACE"
  | .debug => "DEBUG"
  | .info => "INFO"

/-- One line of a log. -/
structure Event where
  level : Level
  message : String
  fields : List (String × String)
deriving DecidableEq

end TtlStore
