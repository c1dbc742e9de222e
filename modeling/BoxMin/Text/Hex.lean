import BoxMin.Text.Blank
import BoxMin.Text.Quoted

set_option autoImplicit false

namespace BoxMin

namespace Hex

def encode (bs : List UInt8) : List Char :=
  bs.flatMap fun b => hexDigits 2 b.toNat

def digit? (c : Char) : Option Nat :=
  if '0' ≤ c && c ≤ '9' then some (c.toNat - 48)
  else if 'a' ≤ c && c ≤ 'f' then some (c.toNat - 87)
  else if 'A' ≤ c && c ≤ 'F' then some (c.toNat - 55)
  else none

def byte? (a b : Char) : Option UInt8 :=
  match digit? a, digit? b with
  | some x, some y => some (UInt8.ofNat (16 * x + y))
  | _, _ => none

def decode? : List Char → Option (List UInt8)
  | [] => some []
  | [c] => if isAsciiBlank c then some [] else none
  | a :: b :: rest =>
    if isAsciiBlank a then decode? (b :: rest)
    else match byte? a b, decode? rest with
      | some x, some bs => some (x :: bs)
      | _, _ => none

end Hex

end BoxMin
