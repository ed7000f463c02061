/-! # Texts aligned at their right end -/
set_option autoImplicit false
namespace MeteredDownload.Text

def spaces (n : Nat) : String := String.ofList (List.replicate n ' ')

/-- The text behind as many spaces as make it `width` characters long; a longer text stays as it is. -/
def alignRight (width : Nat) (s : String) : String := spaces (width - s.length) ++ s

end MeteredDownload.Text
