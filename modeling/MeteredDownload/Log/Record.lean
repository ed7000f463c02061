import MeteredDownload.Log.Datum
import MeteredDownload.Log.Level

/-!
# Log records

A record has a level, a message and fields.  `Record.consoleLine` is its line on a console and
`Record.fileLine` its line in a file.  A message that looks like a pattern with places to fill loses the
fields.  Otherwise a field called `message` is appended to the message, one called `timestamp` takes the place
of the time, and a field `exception` that is true keeps the record from being shown at all.  Fields that cannot be
written on a console keep it from being kept anywhere, and so does a time that no text stands for (`Record.unshown?`).
-/
set_option autoImplicit false
namespace MeteredDownload.Log

open Text

structure Record where
  level : Level
  message : String
  fields : List (String × Datum)

/-- The letters that, after a percent sign, mark a place to fill. -/
def placeLetters : List Char := ['s', 'c', 'd', 'j', 'i', 'f', 'o', 'O', '%']

def hasPlace : List Char → Bool
  | '%' :: c :: rest => placeLetters.contains c || hasPlace (c :: rest)
  | _ :: rest => hasPlace rest
  | [] => false

def ownKeys : List String := ["level", "message", "timestamp"]

namespace Record

def ofValues (level : Level) (message : String) (fields : List (String × Value)) : Record :=
  ⟨level, message, fields.map fun field => (field.1, .value field.2)⟩

def error (message : String) (fields : List (String × Value) := []) : Record := ofValues .error message fields

def warn (message : String) (fields : List (String × Value) := []) : Record := ofValues .warn message fields

def info (message : String) (fields : List (String × Value) := []) : Record := ofValues .info message fields

def debug (message : String) (fields : List (String × Value) := []) : Record := ofValues .debug message fields

def losesFields (r : Record) : Bool := hasPlace r.message.toList

def given? (key : String) (r : Record) : Option Datum :=
  if r.losesFields then none else (r.fields.lookup key).filter (!·.isVoid)

/-- Is it the record of an exception?  Those are shown nowhere. -/
def isException (r : Record) : Bool :=
  match r.given? "exception" with
  | some (.value (.bool true)) => true
  | _ => false

def givesText (key : String) (r : Record) : Bool := ((r.given? key).map Datum.hasText).getD true

def shownFields (r : Record) : List (String × Datum) :=
  if r.losesFields then [] else r.fields.filter fun field => !ownKeys.contains field.1

def unwritable? (r : Record) : Option Failure := (Datum.record r.shownFields).unwritable? [] (.key "")

/-- What keeps the line on a console from being written, and with it the record from being kept anywhere. -/
def unshown? (r : Record) : Option Failure :=
  r.unwritable?.or (if r.givesText "timestamp" then none else some .withoutText)

def shownMessage (r : Record) : String :=
  match r.given? "message" with
  | some v => r.message ++ " " ++ v.asText
  | none => r.message

def shownTime (timestamp : String) (r : Record) : Datum := (r.given? "timestamp").getD (.value (.text timestamp))

def colouredLevel (level : Level) : String :=
  let code := match level with
    | .error => "31"
    | .warn => "33"
    | .info => "32"
    | .debug => "34"
  "\x1b[" ++ code ++ "m" ++ level.name ++ "\x1b[39m"

def consoleLine (timestamp : String) (r : Record) : String :=
  let fields := match r.shownFields with
    | [] => ""
    | fields => " " ++ (Json.record (Datum.jsonFields .brief fields)).render
  (r.shownTime timestamp).asText ++ " [" ++ colouredLevel r.level ++ "]: " ++ r.shownMessage ++ fields

/-- The line in a file, without its end: all fields by the order of their keys. -/
def fileLine (timestamp : String) (r : Record) : String :=
  let own := [("level", .value (.text r.level.name)), ("message", .value (.text r.shownMessage)),
    ("timestamp", r.shownTime timestamp)]
  (Json.record (Datum.jsonFields .facts (r.shownFields ++ own))).sorted.render

end Record

/-- What a console has shown: errors and warnings on one side, all else on the other. -/
structure Console where
  out : Array String
  err : Array String
  deriving DecidableEq, Repr

namespace Console

def empty : Console := ⟨#[], #[]⟩

def add (timestamp : String) (r : Record) (c : Console) : Console :=
  let line := r.consoleLine timestamp
  match r.level with
  | .error | .warn => { c with err := c.err.push line }
  | .info | .debug => { c with out := c.out.push line }

end Console
end MeteredDownload.Log
