/-! Lines of a log, and how urgent they are. -/

namespace Courtship

inductive LogLevel where
  | error
  | warn
  | info
  | debug
  | trace
  deriving DecidableEq

namespace LogLevel

def all : List LogLevel := [error, warn, info, debug, trace]

def name : LogLevel → String
  | error => "ERROR"
  | warn => "WARN"
  | info => "INFO"
  | debug => "DEBUG"
  | trace => "TRACE"

/-- From one for the most urgent. -/
def rank : LogLevel → Nat
  | error => 1
  | warn => 2
  | info => 3
  | debug => 4
  | trace => 5

end LogLevel

structure LogLine where
  level : LogLevel
  message : String
  deriving DecidableEq

/-- What all lines of this library are filed under. -/
def logTarget : String := "lume"

end Courtship
