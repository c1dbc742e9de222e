import BoxMin.Task
import BoxMin.Text.Blank

set_option autoImplicit false

namespace BoxMin

def fieldWidth : Nat := 60

def isPadding (c : Char) : Bool := c = ' ' || c = Char.ofNat 0

def fieldChar (b : UInt8) : Char :=
  if b < 128 then Char.ofNat b.toNat else Char.ofNat 0xfffd

/-- Cuts a field to its width and strips the padding behind its text. -/
def trimField (cs : List Char) : List Char :=
  trimEnd isPadding (cs.take fieldWidth)

def fieldText (bs : List UInt8) : List Char :=
  trimField (bs.map fieldChar)

def fieldWords : List (String × Task) :=
  [("FG", .requestFG), ("NEW_X", .newX), ("START", .start), ("RESTART", .restart),
    ("CONV", .convergence), ("STOP", .stop), ("WARNING", .warning), ("ERROR", .error),
    ("ABNO", .abnormal)]

def taskIn (table : List (String × Task)) (cs : List Char) : Task :=
  match table.find? fun entry => entry.1.toList.isPrefixOf cs with
  | some (_, t) => t
  | none => .unknown

structure Reply where
  task : Task
  message : String
  deriving DecidableEq, Repr

def Reply.ofTrimmed (cs : List Char) : Reply :=
  ⟨taskIn fieldWords cs, String.ofList cs⟩

def Reply.ofField (cs : List Char) : Reply :=
  .ofTrimmed (trimField cs)

end BoxMin
