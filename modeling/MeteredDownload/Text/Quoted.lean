import MeteredDownload.Text.Units

/-!
# Quoted texts

`quoted` is a text as a JSON string; `displayed` is a text between the first kind of quotes that it does
not hold itself, with escapes for what cannot be seen.  A long text is displayed line by line.
-/
set_option autoImplicit false
namespace MeteredDownload.Text

def hexDigits (width n : Nat) : List Char :=
  let digits := Nat.toDigits 16 n
  List.replicate (width - digits.length) '0' ++ digits

def escape (c : Char) : List Char :=
  match c with
  | '"' => ['\\', '"']
  | '\\' => ['\\', '\\']
  | '\n' => ['\\', 'n']
  | '\r' => ['\\', 'r']
  | '\t' => ['\\', 't']
  | '\x08' => ['\\', 'b']
  | '\x0c' => ['\\', 'f']
  | c => if c < ' ' then '\\' :: 'u' :: hexDigits 4 c.toNat else [c]

def quoted (s : String) : String := String.ofList ('"' :: s.toList.flatMap escape ++ ['"'])

/-- Does the text hold what begins a place to fill between backticks? -/
def hasFilling : List Char → Bool
  | '$' :: '\x7b' :: _ => true
  | _ :: rest => hasFilling rest
  | [] => false

def suits (s : List Char) (q : Char) : Bool := !s.contains q && !(q = '`' && hasFilling s)

def quoteMarks : List Char := ['\'', '"', '`']

def quoteFor (s : List Char) : Char := (quoteMarks.find? (suits s)).getD '\''

def displayEscape (q c : Char) : List Char :=
  match c with
  | '\\' => ['\\', '\\']
  | '\n' => ['\\', 'n']
  | '\r' => ['\\', 'r']
  | '\t' => ['\\', 't']
  | '\x08' => ['\\', 'b']
  | '\x0c' => ['\\', 'f']
  | c =>
    if c = q then ['\\', c]
    else if c < ' ' ∨ ('\x7f' ≤ c ∧ c ≤ '\u009f') then
      '\\' :: 'x' :: (hexDigits 2 c.toNat).map Char.toUpper
    else [c]

def displayedPiece (s : List Char) : String :=
  let q := quoteFor s
  String.ofList (q :: s.flatMap (displayEscape q) ++ [q])

def wholeLines : List Char → List (List Char)
  | [] => []
  | c :: rest =>
    if c = '\n' then [c] :: wholeLines rest
    else match wholeLines rest with
      | [] => [[c]]
      | line :: lines => (c :: line) :: lines

def maxPiece : Nat := 76

/-- The text between quotes, and a long one as a sum of its lines. -/
def displayed (s : String) : String :=
  if (units s).length ≤ maxPiece then displayedPiece s.toList
  else String.intercalate " +\n  " ((wholeLines s.toList).map displayedPiece)

end MeteredDownload.Text
