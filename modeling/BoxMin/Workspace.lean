import BoxMin.Error
import BoxMin.Task.Field
import BoxMin.Value.Extent
import BoxMin.Value.Operand

/-!
Work areas of the solver. Their lengths are laid down by the routine that writes into them; a
short one would make it write out of bounds. What they hold is the routine's own business, so an
area is its length and element type, except for the status fields.
-/

set_option autoImplicit false

namespace BoxMin

def lsaveSize : Nat := 4
def isaveSize : Nat := 44
def dsaveSize : Nat := 29

def waSize (n m : Int) : Int := 2 * m * n + 5 * n + 11 * m * m + 8 * m

def iwaSize (n : Int) : Int := 3 * n

theorem waSize_nonneg {n m : Int} (hn : 0 ≤ n) (hm : 0 ≤ m) : 0 ≤ waSize n m := by
  have h₁ : 0 ≤ m * n := Int.mul_nonneg hm hn
  have h₂ : 0 ≤ m * m := Int.mul_nonneg hm hm
  have h₃ : 2 * m * n = 2 * (m * n) := Int.mul_assoc 2 m n
  have h₄ : 11 * m * m = 11 * (m * m) := Int.mul_assoc 11 m m
  unfold waSize
  omega

namespace Operand

def waSize (n m : Operand) : Except Fault Operand := do
  let mn ← times (← times 2 m) n
  let sum ← plus mn (← times 5 n)
  let sum ← plus sum (← times (← times 11 m) m)
  plus sum (← times 8 m)

def iwaSize (n : Operand) : Except Fault Operand := times 3 n

theorem waSize_plain (n m : Int) :
    waSize (.plain n) (.plain m) = .ok (.plain (BoxMin.waSize n m)) := rfl

theorem iwaSize_plain (n : Int) : iwaSize (.plain n) = .ok (.plain (BoxMin.iwaSize n)) := rfl

end Operand

structure Area where
  size : Nat
  element : ElementType
  deriving DecidableEq, Repr

def Area.ofLength (size : Int) (element : ElementType) : Except Fault Area :=
  if !IntType.int64.holds size then .error .unfit
  else (checkExtent [size] element.bytes).map fun _ => ⟨size.toNat, element⟩

/-- The status field of a workspace: sixty characters, or a task and a detail. -/
inductive TaskField where
  | text (bytes : List UInt8)
  | codes (status detail : Int)
  deriving DecidableEq, Repr

def textBytes (s : String) : List UInt8 :=
  s.toList.map fun c => UInt8.ofNat c.toNat

def padField (bs : List UInt8) : List UInt8 :=
  (bs.take fieldWidth) ++ List.replicate (fieldWidth - bs.length) 0

def fieldBytes (bs : List UInt8) : List UInt8 :=
  (bs.reverse.dropWhile (· = 0)).reverse

structure Workspace where
  wa : Area
  iwa : Area
  task : TaskField
  csave : List UInt8
  lsave : Area
  isave : Area
  dsave : Area
  lnTask : Area
  deriving DecidableEq, Repr

namespace Workspace

def freshTask (textTask : Bool) : TaskField :=
  if textTask then .text (padField (textBytes "START")) else .codes 0 0

/-- Zeroed areas for `n` variables and `m` corrections; the floating-point area is made first. -/
def allocate (n m : Operand) (element : ElementType := .int32) (textTask : Bool := true) :
    Except Error Workspace := do
  let wa ← orFault do Area.ofLength (← n.waSize m).value .float64
  let iwa ← orFault do Area.ofLength (← n.iwaSize).value element
  .ok
    { wa, iwa
      task := freshTask textTask
      csave := padField []
      lsave := ⟨lsaveSize, element⟩
      isave := ⟨isaveSize, element⟩
      dsave := ⟨dsaveSize, .float64⟩
      lnTask := ⟨2, .int32⟩ }

end Workspace

end BoxMin
