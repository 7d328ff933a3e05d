/-!
# Journals

A program notes what it does as entries, each with a level, a topic and a message.
-/

namespace MapPainter

/-- How much an entry matters. -/
inductive Level where
  | error
  | warn
  | info
  | debug
  | trace
  deriving DecidableEq, Repr

namespace Level

def all : List Level := [error, warn, info, debug, trace]

def name : Level → String
  | error => "ERROR"
  | warn => "WARN"
  | info => "INFO"
  | debug => "DEBUG"
  | trace => "TRACE"

/-- How many levels matter as much or more. -/
def number : Level → Nat
  | error => 1
  | warn => 2
  | info => 3
  | debug => 4
  | trace => 5

end Level

structure Entry where
  level : Level
  topic : String
  message : String
  /-- The names of what the entry consists of, as filters know them. -/
  fields : List String := ["message"]
  deriving DecidableEq, Repr

namespace Entry

def text (e : Entry) : String := s!"{e.level.name} {e.topic}: {e.message}"

end Entry

end MapPainter
