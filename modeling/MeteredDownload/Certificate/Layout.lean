import MeteredDownload.Certificate.Content

/-!
# Layouts of elements

A `Layout` says what may stand at the front of some bytes.  Where another tag stands there the layout is absent,
which is a fault unless the part can be left out; what has the right tag and is not as the layout says is a
fault in any case.
-/
set_option autoImplicit false
namespace MeteredDownload.Certificate

inductive Reading where
  | found (rest : List UInt8)
  | absent
  | faulty
  deriving DecidableEq, Repr

abbrev Layout := List UInt8 → Reading

structure Field where
  layout : Layout
  isOptional : Bool

def Reading.ofRest? : Option (List UInt8) → Reading
  | some rest => found rest
  | none => faulty

namespace Layout

def required (layout : Layout) : Field := ⟨layout, false⟩

def optional (layout : Layout) : Field := ⟨layout, true⟩

def afterValue? (type : Nat) (test : List UInt8 → Bool) (h : Header) (body : List UInt8) :
    Option (List UInt8) := do
  let (content, rest) ← h.content? type body
  if isContent type content && test content then some rest else none

def tagged (tag : Tag) (read? : Header → List UInt8 → Option (List UInt8)) : Layout := fun bytes =>
  match header? bytes with
  | none => .faulty
  | some (h, body) => if h.tag = tag then .ofRest? (read? h body) else .absent

def value (type : Nat) (tag : Tag := .universal type) : Layout :=
  tagged tag (afterValue? type fun _ => true)

def oneOf (types : List Nat) (test : Nat → List UInt8 → Bool) : Layout := fun bytes =>
  match header? bytes with
  | none => .faulty
  | some (h, body) =>
    let type := h.tag.number
    if h.tag.tagClass = .universal && types.contains type then
      .ofRest? (afterValue? type (test type) h body)
    else .absent

def anything : Layout := fun bytes =>
  match header? bytes with
  | none => .faulty
  | some (h, body) =>
    if h.tag.tagClass = .universal then .ofRest? (afterValue? h.tag.number (fun _ => true) h body)
    else .ofRest? (h.skip? body)

/-- What follows an element, given what follows the layout of its content.  The content ends where the length says,
or with the mark of its end. -/
def within? (read? : Bool → List UInt8 → Option (List UInt8)) (h : Header) (body : List UInt8) :
    Option (List UInt8) :=
  match h.length? with
  | none => read? true body
  | some length =>
    match read? false (body.take length) with
    | some [] => some (body.drop length)
    | _ => none

/-- What follows the fields of a sequence.  All that is not there can be left out, and what is there is not left
over: the last field does not count as left out while bytes are there.  `isOpen` says that a mark ends them. -/
def afterFields? (isOpen : Bool) : List Field → List UInt8 → Option (List UInt8)
  | [], bytes => if isOpen then afterEnd? bytes else some bytes
  | field :: fields, bytes =>
    let optional := field.isOptional && fields.all (·.isOptional)
    if bytes.isEmpty then if optional && !isOpen then some [] else none
    else match afterEnd? bytes with
      | some rest => if optional && isOpen then some rest else none
      | none =>
        match field.layout bytes with
        | .found rest => afterFields? isOpen fields rest
        | .absent => if field.isOptional && !fields.isEmpty then afterFields? isOpen fields bytes else none
        | .faulty => none

def sequence (fields : List Field) : Layout :=
  tagged (.universal sequenceType) fun h body =>
    if h.isConstructed then within? (afterFields? · fields) h body else none

def afterItems? (item : Layout) (isOpen : Bool) : Nat → List UInt8 → Option (List UInt8)
  | 0, _ => none
  | steps + 1, bytes =>
    if bytes.isEmpty then if isOpen then none else some []
    else match afterEnd? bytes with
      | some rest => if isOpen then some rest else none
      | none =>
        match item bytes with
        | .found rest => afterItems? item isOpen steps rest
        | _ => none

def items (tag : Tag) (item : Layout) : Layout :=
  tagged tag (within? fun isOpen bytes => afterItems? item isOpen (bytes.length + 1) bytes)

def sequenceOf (item : Layout) : Layout := items (.universal sequenceType) item

def setOf (item : Layout) : Layout := items (.universal setType) item

def wrapped (n : Nat) (layout : Layout) : Layout :=
  tagged (.context n) fun h body =>
    if h.isConstructed then
      within? (fun isOpen bytes => match layout bytes with
        | .found rest => if isOpen then afterEnd? rest else some rest
        | _ => none) h body
    else none

end Layout
end MeteredDownload.Certificate
