import MeteredDownload.Text.Direction
import MeteredDownload.Text.Joining
import MeteredDownload.Url.Domain.Folding
import MeteredDownload.Url.Punycode

/-!
# Labels of domains

A label beyond ASCII does not begin with a mark, has joiners only where they have an effect, and does not
mix directions.  `Domain.ascii?` writes a domain with each of its labels in ASCII.
-/
set_option autoImplicit false
namespace MeteredDownload.Url.Domain

open Text

def isMark (c : Char) : Bool := (marks.find? c.toNat).any (·.mark = 'm')

def nonJoiner : Char := '\u200c'

def joiner : Char := '\u200d'

/-- What the first joiner in a text says of it, if there is one.  It is right behind a sign that takes a
vowel away; one that keeps letters apart is also right between letters that join. -/
def joinersFit? (before : List Char) : List Char → Option Bool
  | [] => none
  | c :: rest =>
    if c = nonJoiner ∨ c = joiner then
      some (before.getLast?.any (Composition.classOf · = Composition.vowelKiller)
        || c = nonJoiner && before.any Joining.joinsNext && rest.any Joining.joinsPrevious)
    else joinersFit? (before ++ [c]) rest

/-- Do the directions go together?  Only a text with a character from right to left is looked at: it keeps
to the direction that it begins with, it has digits of one kind, and its end is no sign. -/
def directionsFit (directions : List Direction) : Bool :=
  let inner := (directions.reverse.dropWhile (· = .mark)).reverse
  match directions.head?, inner.getLast? with
  | some first, some last =>
    if !directions.any Direction.isFromRight then true
    else if first = .leftToRight then
      inner.all (fun d => d = .leftToRight || d.isNeutral) && (last = .leftToRight || last = .europeanDigit)
    else
      inner.all (fun d => d.isFromRight || d.isNeutral) && (last.isFromRight || last = .europeanDigit)
        && !(inner.contains .europeanDigit && inner.contains .arabicDigit)
  | _, _ => false

def isLabel (label : List Char) : Bool :=
  match label with
  | [] => false
  | c :: _ =>
    !label.contains '.' && !isMark c
      && (joinersFit? [] label).getD (directionsFit (label.map Direction.ofChar))

def asciiMark : List Char := ['x', 'n', '-', '-']

/-- A label in ASCII.  One that has the form for labels beyond ASCII has to stand for a label, and for one
that is in the form which all its other spellings are taken to. -/
def asciiLabel? (label : List Char) : Option (List Char) :=
  if asciiMark.isPrefixOf label then do
    if !isAscii label then none
    let name ← Punycode.decode? (label.drop asciiMark.length)
    let folded ← fold? name
    if folded = name ∧ Composition.compose name = name ∧ isLabel name then some label else none
  else if isAscii label then some label
  else if isLabel label then some (asciiMark ++ Punycode.encode label)
  else none

def ascii? (s : List Char) : Option (List Char) := do
  let name ← normal? s
  return List.intercalate ['.'] (← (splitOn '.' name).mapM asciiLabel?)

end MeteredDownload.Url.Domain
