import NativeFinder.Text.Basic

/-!
# Log records

What happens behind the scenes is reported as records, each with a level and a message. Which
levels are kept is the reader's choice.
-/

namespace NativeFinder

namespace Log

/-- How grave a record is. -/
inductive Level where
  | debug | info | warning | error
deriving DecidableEq, Inhabited

namespace Level

/-- The rank of a level; graver levels rank higher. -/
def rank : Level → Nat
  | debug => 0
  | info => 1
  | warning => 2
  | error => 3

/-- The name of a level. -/
def name : Level → Text
  | debug => "DEBUG"
  | info => "INFO"
  | warning => "WARNING"
  | error => "ERROR"

end Level

/-- A message with its level. -/
structure Record where
  level : Level
  message : Text
deriving DecidableEq, Inhabited

/-- A record for whoever looks closely. -/
def debug (message : Text) : Record := ⟨.debug, message⟩

/-- A record of an ordinary event. -/
def info (message : Text) : Record := ⟨.info, message⟩

/-- A record of something that was passed over. -/
def warning (message : Text) : Record := ⟨.warning, message⟩

/-- A record of a failure. -/
def error (message : Text) : Record := ⟨.error, message⟩

/-- The records of a level and above. -/
def atLeast (level : Level) (records : List Record) : List Record :=
  records.filter fun r => level.rank ≤ r.level.rank

end Log

end NativeFinder
