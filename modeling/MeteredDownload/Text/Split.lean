/-! # Splitting texts at a character -/
set_option autoImplicit false
namespace MeteredDownload.Text

def splitOn (separator : Char) : List Char → List (List Char)
  | [] => [[]]
  | c :: rest =>
    if c = separator then [] :: splitOn separator rest
    else match splitOn separator rest with
      | [] => [[c]]
      | first :: more => (c :: first) :: more

def cut (separator : Char) : List Char → List Char × Option (List Char)
  | [] => ([], none)
  | c :: rest =>
    if c = separator then ([], some rest)
    else
      let (front, back?) := cut separator rest
      (c :: front, back?)

end MeteredDownload.Text
