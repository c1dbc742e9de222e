import BoxMin.Value.Reading

set_option autoImplicit false

namespace BoxMin

inductive Operand where
  | plain (k : Int)
  | sized (t : IntType) (k : Int)
  deriving DecidableEq, Repr

namespace Operand

instance : Coe Int Operand := ⟨.plain⟩

instance (k : Nat) : OfNat Operand k := ⟨.plain k⟩

def value : Operand → Int
  | .plain k => k
  | .sized _ k => k

def combine (f : Int → Int → Int) : Operand → Operand → Except Fault Operand
  | .plain a, .plain b => .ok (.plain (f a b))
  | .plain a, .sized t b =>
    if t.holds a then .ok (.sized t (t.wrap (f a b))) else .error .overflow
  | .sized t a, .plain b =>
    if t.holds b then .ok (.sized t (t.wrap (f a b))) else .error .overflow
  | .sized s a, .sized t b => match s.common? t with
    | some u => .ok (.sized u (u.wrap (f a b)))
    | none => .error .wrongKind

def plus : Operand → Operand → Except Fault Operand := combine (· + ·)

def times : Operand → Operand → Except Fault Operand := combine (· * ·)

def ofScalar : Scalar → Except Fault Operand
  | .bool b => .ok (.sized .int64 (if b then 1 else 0))
  | .int t k => .ok (.sized t k)
  | _ => .error .wrongKind

/-- Whole numbers, truth values, and arrays of one of them. -/
def ofValue : Value → Except Fault Operand
  | .bool b => .ok (.plain (if b then 1 else 0))
  | .int k => .ok (.plain k)
  | .scalar s => ofScalar s
  | .array a => match a.items with
    | [s] => if a.shape.length ≤ 1 then ofScalar s else .error .wrongKind
    | _ => .error .wrongKind
  | .decimal (.nan _ true _) => .error .indeterminate
  | _ => .error .wrongKind

end Operand

end BoxMin
