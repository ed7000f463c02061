/-! # Levels of log records -/
set_option autoImplicit false
namespace MeteredDownload.Log

inductive Level where
  | error
  | warn
  | info
  | debug
  deriving DecidableEq, Repr

namespace Level

def name : Level → String
  | error => "error"
  | warn => "warn"
  | info => "info"
  | debug => "debug"

def all : List Level := [error, warn, info, debug]

def ofName? (s : String) : Option Level := all.find? (fun level => level.name = s)

def rank : Level → Nat
  | error => 0
  | warn => 1
  | info => 2
  | debug => 3

def admits (threshold level : Level) : Bool := decide (level.rank ≤ threshold.rank)

end Level
end MeteredDownload.Log
