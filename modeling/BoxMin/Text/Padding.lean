import BoxMin.Text.Blank

set_option autoImplicit false

namespace BoxMin

def blanks (n : Nat) : String := String.ofList (List.replicate n ' ')

def padLeft (width : Nat) (s : String) : String := blanks (width - s.length) ++ s

def padRight (width : Nat) (s : String) : String := s ++ blanks (width - s.length)

def withoutEnd (s : String) : String := String.ofList (trimEnd (· = ' ') s.toList)

end BoxMin
