import BoxMin.Text.Printable

set_option autoImplicit false

namespace BoxMin

def hexDigit (n : Nat) : Char :=
  if n < 10 then Char.ofNat (48 + n) else Char.ofNat (87 + n)

def hexDigits : Nat → Nat → List Char
  | 0, _ => []
  | width + 1, n => hexDigits width (n / 16) ++ [hexDigit (n % 16)]

def backslash : Char := '\\'

def quoteFor (cs : List Char) : Char :=
  if cs.contains '\'' && !cs.contains '"' then '"' else '\''

def shortEscape? (quote c : Char) : Option (List Char) :=
  if c = quote || c = backslash then some [backslash, c]
  else if c = '\t' then some [backslash, 't']
  else if c = '\n' then some [backslash, 'n']
  else if c = '\r' then some [backslash, 'r']
  else none

def codeEscape (c : Char) : List Char :=
  if c.toNat < 0x100 then [backslash, 'x'] ++ hexDigits 2 c.toNat
  else if c.toNat < 0x10000 then [backslash, 'u'] ++ hexDigits 4 c.toNat
  else [backslash, 'U'] ++ hexDigits 8 c.toNat

def escapeChar (quote c : Char) : List Char :=
  match shortEscape? quote c with
  | some cs => cs
  | none => if isPrintable c then [c] else codeEscape c

def quoteText (s : String) : String :=
  let quote := quoteFor s.toList
  String.ofList (quote :: s.toList.flatMap (escapeChar quote) ++ [quote])

def asciiText (s : String) : String :=
  String.ofList (s.toList.flatMap fun c => if c.toNat < 0x80 then [c] else codeEscape c)

def escapeByte (quote : Char) (b : UInt8) : List Char :=
  let c := Char.ofNat b.toNat
  match shortEscape? quote c with
  | some cs => cs
  | none => if 0x20 ≤ b.toNat && b.toNat < 0x7f then [c] else [backslash, 'x'] ++ hexDigits 2 b.toNat

def quoteBytes (bs : List UInt8) : String :=
  let quote := quoteFor (bs.map fun b => Char.ofNat b.toNat)
  String.ofList ('b' :: quote :: bs.flatMap (escapeByte quote) ++ [quote])

end BoxMin
