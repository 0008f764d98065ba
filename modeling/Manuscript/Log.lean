/-!
# Log records

What a computation reports beside its result. A record has a level and a message; computations that
report return the list of their records, in order.
-/

namespace Manuscript

/-- How much a record matters. -/
inductive LogLevel where
  /-- Of interest when looking for the reason of a result. -/
  | debug
  /-- Something went wrong and was recovered from. -/
  | warn
  deriving DecidableEq, Repr

/-- One record. -/
structure LogRecord where
  /-- How much the record matters. -/
  level : LogLevel
  /-- What is reported. -/
  message : String
  deriving DecidableEq, Repr

/-- The records of a computation, in order. -/
abbrev Log := List LogRecord

namespace Log

/-- A log of one debug record. -/
def debug (message : String) : Log := [⟨.debug, message⟩]

/-- A log of one warning. -/
def warn (message : String) : Log := [⟨.warn, message⟩]

end Log

end Manuscript
