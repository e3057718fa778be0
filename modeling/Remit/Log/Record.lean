/-!
Log records and their levels.
-/

namespace Remit.Log

inductive Level where
  | debug
  | info
  | warning
  | error
  | critical
deriving DecidableEq

namespace Level

def name : Level → String
  | debug => "DEBUG"
  | info => "INFO"
  | warning => "WARNING"
  | error => "ERROR"
  | critical => "CRITICAL"

def severity : Level → Nat
  | debug => 10
  | info => 20
  | warning => 30
  | error => 40
  | critical => 50

def all : List Level :=
  [debug, info, warning, error, critical]

def ofName? (text : String) : Option Level :=
  all.find? (·.name = text)

@[simp] theorem ofName?_name (level : Level) : ofName? level.name = some level := by
  cases level <;> decide +kernel

end Level

structure Record where
  level : Level
  logger : String
  text : String
deriving DecidableEq

/-- The loggers of the library, all below `root`. -/
def root : String := "txauthor"
def engineLogger : String := "txauthor.author.engine"
def sourcesLogger : String := "txauthor.author.sources"

def atLeast (level : Level) (records : List Record) : List Record :=
  records.filter fun r => level.severity ≤ r.level.severity

end Remit.Log
