import BoxMin.Value.Basic

set_option autoImplicit false

namespace BoxMin

structure Version where
  major : Nat
  minor : Nat
  deriving DecidableEq, Repr

namespace Version

/-- Digits of any script at the front, and the rest. -/
def leadingDigits (cs : List Char) : List Nat × List Char :=
  let ds := cs.takeWhile fun c => (decimalDigit? c).isSome
  (ds.filterMap decimalDigit?, cs.drop ds.length)

def value (ds : List Nat) : Except Fault Nat :=
  if Numeral.wholeDigitLimit < ds.length then .error .unfit
  else .ok (ds.foldl (fun n d => 10 * n + d) 0)

def ofText (s : String) : Except Fault Version := do
  let (major, rest) := leadingDigits s.toList
  match rest with
  | '.' :: rest =>
    let (minor, _) := leadingDigits rest
    if major.isEmpty || minor.isEmpty then .ok ⟨0, 0⟩
    else .ok ⟨← value major, ← value minor⟩
  | _ => .ok ⟨0, 0⟩

/-- Routines report in numbers from version 1.15 on. -/
def reportsCodes (v : Version) : Bool :=
  1 < v.major || (v.major = 1 && 15 ≤ v.minor)

end Version

end BoxMin
