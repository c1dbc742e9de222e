import BoxMin.Options.Basic
import BoxMin.Value.Extent

set_option autoImplicit false

namespace BoxMin

/-- What a value that breaks the rule of an option is refused with. The refusal quotes the value; if
that cannot be done, it is for this that the value is refused. -/
def optionRefused (key : String) (v : Value) (rule : OptionRule) : Error :=
  if v.isWritable then .invalidOption key v rule else .fault .unfit

def wholeOption (key : String) (minimum : Nat) (v : Value) : Except Error Nat := do
  let isWhole ← match v with
    | .bool _ => .ok false
    | v =>
      if v.isIntegral then .ok true
      else if v.isReal then do
        let x ← orFault v.toFloat
        .ok (isWholeFloat x)
      else .ok false
  if !isWhole then .error (optionRefused key v .whole)
  else
    let k ← orFault v.toWhole
    if k < minimum then .error (optionRefused key (.int k) (.atLeast minimum))
    else .ok k.toNat

def realOption (key : String) (v : Value) : Except Error Float :=
  match v with
  | .bool _ => .error (optionRefused key v .real)
  | v =>
    if !v.isReal then .error (optionRefused key v .real)
    else do
      let x ← orFault v.toFloat
      if 0.0 ≤ x then .ok x
      else .error (optionRefused key (.float x) (.atLeastReal 0.0))

def callableEntries (key : String) : List Value → Except Error (List Callable)
  | [] => .ok []
  | .callable c :: vs => (callableEntries key vs).map (c :: ·)
  | v :: _ => .error (optionRefused key v .callableEntries)

def callablesOption (key : String) (v : Value) : Except Error (List Callable) :=
  match v with
  | .nothing => .ok []
  | .callable c => .ok [c]
  | .list vs | .tuple vs => callableEntries key vs
  | .bytes bs => callableEntries key (bs.map fun b => .int b.toNat)
  | v => .error (optionRefused key v .callables)

/-- The options a caller gave: string keys and those of any other kind. -/
structure Sparse where
  entries : List (Value × Value) := []

namespace Sparse

def ofPairs : List Value → Except Fault (List (Value × Value))
  | [] => .ok []
  | v :: vs => do
    let p ← v.pair
    if !p.1.isKey then .error .wrongKind
    else
      let ps ← ofPairs vs
      .ok (p :: ps)

/-- A mapping, a sequence of pairs, or anything that is false for no options at all. -/
def ofValue (v : Value) : Except Fault Sparse := do
  if ← v.truth then
    match v with
    | .mapping es => .ok ⟨es⟩
    | v => do
      let items ← v.items
      let pairs ← ofPairs items
      .ok ⟨Value.ofEntries pairs⟩
  else .ok {}

def get? (s : Sparse) (key : String) : Option Value :=
  Value.lookup? (.text key) s.entries

def keys (s : Sparse) : List Value := s.entries.map (·.1)

def unknown (s : Sparse) : List Value :=
  s.keys.filter fun k => match k with
    | .text t => !Options.recognized.contains t
    | _ => true

end Sparse

def allTexts? : List Value → Option (List String)
  | [] => some []
  | .text s :: vs => (allTexts? vs).map (s :: ·)
  | _ => none

def sortTexts (ss : List String) : List String :=
  ss.mergeSort fun a b => a ≤ b

/-- Keys in ascending order; all of them must be texts. Others are refused, and before that their
order is. -/
def sortedKeys (keys : List Value) : Except Fault (List String) :=
  match allTexts? keys, Value.sorted keys with
  | some texts, _ => .ok (sortTexts texts)
  | none, .error f => .error f
  | none, .ok _ => .error .wrongKind

def checkKeys (s : Sparse) : Except Error Unit :=
  match s.unknown with
  | [] => .ok ()
  | keys => match sortedKeys keys with
    | .ok texts => .error (.unrecognizedOptions texts)
    | .error f => .error (.fault f)

def Sparse.field (s : Sparse) (key : String) : Value :=
  (s.get? key).getD (((Options.defaults.lookup key)).getD .nothing)

def checkValues (s : Sparse) : Except Error Options := do
  let m ← wholeOption "m" 0 (s.field "m")
  let factr ← realOption "factr" (s.field "factr")
  let pgtol ← realOption "pgtol" (s.field "pgtol")
  let maxIts ← wholeOption "maxIts" 1 (s.field "maxIts")
  let maxTotalIts ← wholeOption "maxTotalIts" 1 (s.field "maxTotalIts")
  let printEvery ← wholeOption "printEvery" 0 (s.field "printEvery")
  let errFcn ← callablesOption "errFcn" (s.field "errFcn")
  let outputFcn ← callablesOption "outputFcn" (s.field "outputFcn")
  .ok ⟨m, factr, pgtol, maxIts, maxTotalIts, printEvery, errFcn, outputFcn⟩

def zeros (n : Value) : Except Fault Value := do
  let shape ← n.toShape
  .ok (.array ⟨.filled shape (.double 0.0), .float64⟩)

def startingPoint (n : Value) (s : Sparse) : Except Error Value :=
  match s.get? "x0" with
  | none | some .nothing => orFault (zeros n)
  | some v => .ok v

def resolveOptions (n : Value) (opts : Option Value) : Except Error (Options × Value) := do
  let s ← orFault (Sparse.ofValue (opts.getD .nothing))
  checkKeys s
  let x0 ← startingPoint n s
  let options ← checkValues s
  .ok (options, x0)

end BoxMin
