import BoxMin.Value.Exact
import BoxMin.Value.Tabular

set_option autoImplicit false

namespace BoxMin

def FloatType.ofPlain? (t : FloatType) : Value → Option Float
  | .bool b => some (if b then 1.0 else 0.0)
  | .int k => some (t.ofInt k)
  | .float x => some (t.round x)
  | _ => none

def Scalar.points? (s : Scalar) (v : Value) : Option (Extended × Extended) :=
  match s with
  | .float t x => match t.ofPlain? v with
    | some y => some (.ofFloat x, .ofFloat y)
    | none => v.extended?.map (.ofFloat x, ·)
  | s => v.extended?.map (s.extended, ·)

namespace Value

def isSignaling : Value → Bool
  | .decimal (.nan _ true _) => true
  | _ => false

def isUnordered : Value → Bool
  | .decimal (.nan _ _ _) => true
  | _ => false

def sole? (v : Value) : Option Value :=
  match v with
  | .list _ | .tuple _ | .array _ => match v.leaves with
    | [w] => some w
    | _ => none
  | v => some v

/-- The points by which an array and another value are compared: both must come to one item. -/
def solePoints (a : NdArray) (w : Value) : Except Fault (Option (Extended × Extended)) :=
  match a.items, w.sole? with
  | [s], some w => .ok (s.points? w)
  | _, _ => .error .unfit

def agrees (v w : Value) : Except Fault Bool :=
  match v, w with
  | .array a, w => do .ok (((← solePoints a w).map fun (p, q) => p.equals q).getD false)
  | v, .array a => do .ok (((← solePoints a v).map fun (p, q) => p.equals q).getD false)
  | .scalar s, w => .ok (((s.points? w).map fun (p, q) => p.equals q).getD false)
  | v, .scalar s => .ok (((s.points? v).map fun (p, q) => p.equals q).getD false)
  | v, w =>
    if (v.isSignaling && w.extended?.isSome) || (w.isSignaling && v.extended?.isSome) then
      .error .indeterminate
    else .ok (v.equals w)

def numberBefore (v w : Value) (p q : Extended) : Except Fault Bool :=
  if v.isUnordered || w.isUnordered then .error .indeterminate else .ok (p.below q)

mutual

def before (v w : Value) : Except Fault Bool :=
  match v, w with
  | .text s, .text t => .ok (s < t)
  | .bytes s, .bytes t => .ok (s < t)
  | .list vs, .list ws => itemsBefore vs ws
  | .tuple vs, .tuple ws => itemsBefore vs ws
  | .complex _ _, _ | _, .complex _ _ => .error .wrongKind
  | .array a, w => match solePoints a w with
    | .ok (some (p, q)) => .ok (p.below q)
    | .ok none => .error .wrongKind
    | .error e => .error e
  | v, .array a => match solePoints a v with
    | .ok (some (p, q)) => .ok (q.below p)
    | .ok none => .error .wrongKind
    | .error e => .error e
  | v, w => match v.extended?, w.extended? with
    | some p, some q => numberBefore v w p q
    | _, _ => .error .wrongKind

/-- The first items that differ decide, or the lengths. -/
def itemsBefore : List Value → List Value → Except Fault Bool
  | [], ws => .ok !ws.isEmpty
  | _ :: _, [] => .ok false
  | v :: vs, w :: ws => do
    if ← v.agrees w then itemsBefore vs ws else v.before w

end

def insertDescending (v : Value) : List Value → Except Fault (List Value)
  | [] => .ok [v]
  | w :: ws => do
    if ← v.before w then
      let rest ← insertDescending v ws
      .ok (w :: rest)
    else .ok (v :: w :: ws)

def sorted (vs : List Value) : Except Fault (List Value) :=
  (vs.foldlM (fun acc v => insertDescending v acc) []).map List.reverse

end Value

end BoxMin
