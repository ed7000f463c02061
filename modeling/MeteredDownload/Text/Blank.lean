/-!
# Blank characters

The characters that count as blank at either end of a text: the white space and line ends of Unicode
without U+0085, and the byte order mark.
-/
set_option autoImplicit false
namespace MeteredDownload.Text

def isBlank (c : Char) : Bool :=
  ('\t' ≤ c && c ≤ '\r') || c = ' ' || c = '\u00a0' || c = '\u1680'
    || ('\u2000' ≤ c && c ≤ '\u200a') || c = '\u2028' || c = '\u2029'
    || c = '\u202f' || c = '\u205f' || c = '\u3000' || c = '\ufeff'

def trimStart (s : List Char) : List Char := s.dropWhile isBlank

def trimEnd (s : List Char) : List Char := (s.reverse.dropWhile isBlank).reverse

def trim (s : List Char) : List Char := trimEnd (trimStart s)

end MeteredDownload.Text
