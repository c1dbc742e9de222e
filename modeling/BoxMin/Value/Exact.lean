import BoxMin.Value.Basic

set_option autoImplicit false

namespace BoxMin

/-- A point of the extended number line, or none of its points. A decimal too long to be written
out is kept as it is, without final zeros. -/
inductive Extended where
  | finite (r : Rat)
  | remote (negative : Bool) (d : Decimal)
  | infinite (negative : Bool)
  | undefined
  deriving DecidableEq

namespace Extended

def ofFloat (x : Float) : Extended :=
  match Datum.ofFloat x with
  | .finite negative m q => match (Datum.finite negative m q).rational? with
    | some r => .finite r
    | none => .undefined
  | .infinite negative => .infinite negative
  | .nan => .undefined

/-- Decimals with more zeros than this in front of their digits or behind them are not written
out. -/
def reach : Int := 20000

def ofDecimal (d : SignedDecimal) : Extended :=
  match d with
  | .finite negative d =>
    let d := d.stripZeros d.digits.length
    if d.coefficient = 0 then .finite 0
    else if -(reach + d.digits.length) ≤ d.exponent && d.exponent ≤ reach then
      .finite (if negative then -d.exact else d.exact)
    else .remote negative d
  | .infinite negative => .infinite negative
  | .nan _ _ _ => .undefined

def equals : Extended → Extended → Bool
  | .finite a, .finite b => a = b
  | .remote a d, .remote b e => a = b && d = e
  | .infinite a, .infinite b => a = b
  | _, _ => false

def below : Extended → Extended → Bool
  | .undefined, _ | _, .undefined => false
  | .infinite a, .infinite b => a && !b
  | .infinite a, _ => a
  | _, .infinite b => !b
  | .finite a, .finite b => a < b
  | .remote a d, .remote b e => if a = b then (if a then closer e d else closer d e) else a
  | .remote a d, .finite r => if a then beyond d (-r) else !beyond d r
  | .finite r, .remote b e => if b then !beyond e (-r) else beyond e r
where
  /-- Is the first of two positive decimals the smaller one? -/
  closer (d e : Decimal) : Bool :=
    if d.leading = e.leading then
      d.coefficient * Nat.pow 10 e.digits.length < e.coefficient * Nat.pow 10 d.digits.length
    else d.leading < e.leading
  /-- Is a positive decimal greater than a number? It is written out only next to one of its own
  size. -/
  beyond (d : Decimal) (r : Rat) : Bool :=
    if r ≤ 0 then true
    else
      let e := Decimal.leadingExponent r.num.natAbs r.den
      if d.leading = e then r < d.exact else e < d.leading

end Extended

namespace Scalar

def extended : Scalar → Extended
  | .bool b => .finite (if b then 1 else 0)
  | .int _ k => .finite k
  | .float _ x => .ofFloat x
  | .text _ => .undefined
  | .complex _ re im => if im == 0.0 then .ofFloat re else .undefined

end Scalar

namespace Value

def ofQuotient (n d : Int) : Except Fault Value :=
  if d = 0 then .error .zeroDivisor else .ok (.ratio ((n : Rat) / (d : Rat)))

def extended? : Value → Option Extended
  | .bool b => some (.finite (if b then 1 else 0))
  | .int k => some (.finite k)
  | .float x => some (.ofFloat x)
  | .ratio r => some (.finite r)
  | .decimal d => some (.ofDecimal d)
  | .complex re im => if im == 0.0 then some (.ofFloat re) else none
  | .scalar s => some s.extended
  | _ => none

/-- Truth values count as numbers; this is what option keys and defaults are compared by. -/
def numbersEqual (a b : Value) : Option Bool :=
  match a.extended?, b.extended? with
  | some p, some q => some (p.equals q)
  | _, _ => none

mutual

def equals : Value → Value → Bool
  | .nothing, .nothing => true
  | .text s, .text t => s = t
  | .bytes s, .bytes t => s = t
  | .list vs, .list ws => equalItems vs ws
  | .tuple vs, .tuple ws => equalItems vs ws
  | .callable c, .callable d => c = d
  | .complex a b, .complex c d => a == c && b == d
  | .mapping vs, .mapping ws => vs.length == ws.length && entriesWithin vs ws
  | v, w => (numbersEqual v w).getD false

def equalItems : List Value → List Value → Bool
  | [], [] => true
  | v :: vs, w :: ws => equals v w && equalItems vs ws
  | _, _ => false

def entriesWithin : List (Value × Value) → List (Value × Value) → Bool
  | [], _ => true
  | (k, v) :: vs, ws => (ws.any fun (l, w) => equals k l && equals v w) && entriesWithin vs ws

end

/-- Sets the value of a key; an equal key keeps its place and its spelling. -/
def setEntry (k v : Value) : List (Value × Value) → List (Value × Value)
  | [] => [(k, v)]
  | (l, w) :: rest => if equals l k then (l, v) :: rest else (l, w) :: setEntry k v rest

def ofEntries (entries : List (Value × Value)) : List (Value × Value) :=
  entries.foldl (fun acc (k, v) => setEntry k v acc) []

def lookup? (k : Value) (entries : List (Value × Value)) : Option Value :=
  (entries.find? fun (l, _) => equals l k).map (·.2)

/-- May a value be a key? Containers that can change may not. -/
def isKey : Value → Bool
  | .list _ | .mapping _ | .array _ | .cells _ _ => false
  | .tuple vs => keyItems vs
  | .decimal (.nan _ true _) => false
  | _ => true
where
  keyItems : List Value → Bool
    | [] => true
    | v :: vs => isKey v && keyItems vs

def ofKeyed (entries : List (Value × Value)) : Except Fault Value :=
  if entries.all fun e => e.1.isKey then .ok (.mapping (ofEntries entries)) else .error .wrongKind

end Value

end BoxMin
