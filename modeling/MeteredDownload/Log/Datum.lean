import MeteredDownload.Log.Json

/-!
# What a record can hold

The fields of a record hold values, and beside them what no failure carries: whole numbers of any size, and
collections that are in themselves.  A place where one of the collections around it stands once more is told by their
number, from the innermost (`Datum.around`).  In a file such a place is marked; on a console neither can be written
(`Datum.unwritable?`).
-/
set_option autoImplicit false
namespace MeteredDownload.Log

inductive Datum where
  | value (v : Value)
  | integer (n : Int)
  | list (items : List Datum)
  | record (fields : List (String × Datum))
  | around (n : Nat)

inductive Finder where
  | key (name : String)
  | index (i : Nat)

def Finder.text : Finder → String
  | key "" => "<anonymous>"
  | key name => "property '" ++ name ++ "'"
  | index i => "index " ++ toString i

structure Enclosure where
  finder : Finder
  isList : Bool

namespace Enclosure

def kind (e : Enclosure) : String := "object with constructor '" ++ (if e.isList then "Array" else "Object") ++ "'"

def line (e : Enclosure) : String := "\n    |     " ++ e.finder.text ++ " -> " ++ e.kind

/-- The way around a circle: the collection in which it begins, those on the way, at most three of them shown, and what
leads back. -/
def circle (last : Finder) : List Enclosure → String
  | [] => ""
  | first :: rest =>
    let shown :=
      if rest.length ≤ 3 then rest.map line
      else (rest.take 2).map line ++ "\n    |     ..." :: (rest.drop (rest.length - 1)).map line
    "\n    --> starting at " ++ first.kind ++ String.join shown ++ "\n    --- " ++ last.text ++ " closes the circle"

end Enclosure

namespace Datum

def isVoid : Datum → Bool
  | value .undefined | value .null | value (.bool false) | value (.text "") => true
  | value (.number x) => x.isNaN || x.isZero
  | integer n => n = 0
  | _ => false

mutual

def asText : Datum → String
  | value v => v.asText
  | integer n => toString n
  | list items => String.intercalate "," (itemTexts items)
  | record _ => "[object Object]"
  | around _ => ""

def itemTexts : List Datum → List String
  | [] => []
  | value .undefined :: rest | value .null :: rest => "" :: itemTexts rest
  | d :: rest => d.asText :: itemTexts rest

def hasText : Datum → Bool
  | value v => v.hasText
  | list items => haveText items
  | record fields => (fields.lookup "toString").isNone
  | integer _ | around _ => true

def haveText : List Datum → Bool
  | [] => true
  | d :: rest => d.hasText && haveText rest

/-- What keeps a datum from being written as JSON on a console; the collections around it are given from the
innermost. -/
def unwritable? (enclosures : List Enclosure) (finder : Finder) : Datum → Option Failure
  | value _ => none
  | integer _ => some .wholeNumber
  | list items => unwritableItem? (⟨finder, true⟩ :: enclosures) 0 items
  | record fields => unwritableField? (⟨finder, false⟩ :: enclosures) fields
  | around n => some (.circle (Enclosure.circle finder (enclosures.take (n + 1)).reverse))

def unwritableItem? (enclosures : List Enclosure) (i : Nat) : List Datum → Option Failure
  | [] => none
  | d :: rest => (d.unwritable? enclosures (.index i)).or (unwritableItem? enclosures (i + 1) rest)

def unwritableField? (enclosures : List Enclosure) : List (String × Datum) → Option Failure
  | [] => none
  | (key, d) :: rest => (d.unwritable? enclosures (.key key)).or (unwritableField? enclosures rest)

def json? (form : FailureForm) : Datum → Option Json
  | value v => Json.ofValue? form v
  | integer n => some (.text (toString n))
  | list items => some (.list (jsonItems form items))
  | record fields => some (.record (jsonFields form fields))
  | around _ => some (.text "[Circular]")

def jsonItems (form : FailureForm) : List Datum → List Json
  | [] => []
  | d :: rest => (d.json? form).getD .null :: jsonItems form rest

def jsonFields (form : FailureForm) : List (String × Datum) → List (String × Json)
  | [] => []
  | (key, d) :: rest =>
    match d.json? form with
    | none => jsonFields form rest
    | some j => (key, j) :: jsonFields form rest

end

end Datum
end MeteredDownload.Log
