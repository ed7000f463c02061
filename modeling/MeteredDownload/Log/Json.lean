import MeteredDownload.Failure
import MeteredDownload.Text.Units

/-!
# Values as JSON

What JSON has no word for is left out of a record and null in a list, and so are numbers that are not
finite.  A failure becomes a record: of its name and message in brief, or of the facts that it carries.
-/
set_option autoImplicit false
namespace MeteredDownload.Log

open Numeric Text

/-- A JSON text by its structure.  `literal` is written as it is. -/
inductive Json where
  | literal (s : String)
  | text (s : String)
  | list (items : List Json)
  | record (fields : List (String × Json))

inductive FailureForm where
  | brief
  | facts
  deriving DecidableEq, Repr

namespace Json

def null : Json := literal "null"

def ofNumber (x : Binary64) : Json := if x.isFinite then literal x.text else null

/-- A fact of a failure, which is never a list, a record or a failure itself. -/
def ofFact : String × Value → Option (String × Json)
  | (key, .text s) => some (key, text s)
  | (key, .number x) => some (key, ofNumber x)
  | _ => none

def brief (f : Failure) : List (String × Json) := [("name", text f.name), ("message", text f.message)]

mutual

def ofValue? (form : FailureForm) : Value → Option Json
  | .undefined => none
  | .null => some null
  | .bool b => some (literal (if b then "true" else "false"))
  | .number x => some (ofNumber x)
  | .text s => some (text s)
  | .list items => some (list (ofItems form items))
  | .record fields => some (record (ofFields form fields))
  | .error f => some (record (ofFailure form f))

def ofItems (form : FailureForm) : List Value → List Json
  | [] => []
  | v :: rest => (ofValue? form v).getD null :: ofItems form rest

def ofFields (form : FailureForm) : List (String × Value) → List (String × Json)
  | [] => []
  | (key, v) :: rest =>
    match ofValue? form v with
    | none => ofFields form rest
    | some j => (key, j) :: ofFields form rest

def ofFailure (form : FailureForm) : Failure → List (String × Json)
  | .raised kind message name? code =>
    match form with
    | .brief => brief (.raised kind message name? code)
    | .facts =>
      let code := match ofValue? form code with
        | none => []
        | some j => [("code", j)]
      match name? with
      | none => code
      | some name => ("name", text name) :: code
  | f =>
    match form with
    | .brief => brief f
    | .facts => f.fields.filterMap ofFact

end

mutual

def sorted : Json → Json
  | literal s => literal s
  | text s => text s
  | list items => list (sortedItems items)
  | record fields => record ((sortedFields fields).mergeSort fun a b => unitsLe a.1 b.1)

def sortedItems : List Json → List Json
  | [] => []
  | j :: rest => j.sorted :: sortedItems rest

def sortedFields : List (String × Json) → List (String × Json)
  | [] => []
  | (key, j) :: rest => (key, j.sorted) :: sortedFields rest

end

mutual

def render : Json → String
  | literal s => s
  | text s => quoted s
  | list items => "[" ++ String.intercalate "," (renderItems items) ++ "]"
  | record fields => "\x7b" ++ String.intercalate "," (renderFields fields) ++ "\x7d"

def renderItems : List Json → List String
  | [] => []
  | j :: rest => j.render :: renderItems rest

def renderFields : List (String × Json) → List String
  | [] => []
  | (key, j) :: rest => (quoted key ++ ":" ++ j.render) :: renderFields rest

end
end Json
end MeteredDownload.Log
