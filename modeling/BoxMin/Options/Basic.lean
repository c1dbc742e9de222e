import BoxMin.Error
import BoxMin.Value.Comparison

set_option autoImplicit false

namespace BoxMin

structure Options where
  m : Nat := 5
  factr : Float := 1e7
  pgtol : Float := 1e-5
  maxIts : Nat := 100
  maxTotalIts : Nat := 5000
  printEvery : Nat := 500
  errFcn : List Callable := []
  outputFcn : List Callable := []

/-- The same options, each an unchecked value. -/
structure Fields where
  m : Value := .int 5
  factr : Value := .float 1e7
  pgtol : Value := .float 1e-5
  maxIts : Value := .int 100
  maxTotalIts : Value := .int 5000
  printEvery : Value := .int 500
  errFcn : Value := .tuple []
  outputFcn : Value := .tuple []

namespace Options

def defaults : List (String × Value) :=
  [("m", .int 5), ("factr", .float 1e7), ("pgtol", .float 1e-5), ("maxIts", .int 100),
    ("maxTotalIts", .int 5000), ("printEvery", .int 500), ("errFcn", .tuple []),
    ("outputFcn", .tuple [])]

def recognized : List String :=
  defaults.map (·.1) ++ ["x0"]

def toFields (o : Options) : Fields where
  m := .int o.m
  factr := .float o.factr
  pgtol := .float o.pgtol
  maxIts := .int o.maxIts
  maxTotalIts := .int o.maxTotalIts
  printEvery := .int o.printEvery
  errFcn := .tuple (o.errFcn.map .callable)
  outputFcn := .tuple (o.outputFcn.map .callable)

end Options

namespace Fields

def toList (f : Fields) : List (String × Value) :=
  [("m", f.m), ("factr", f.factr), ("pgtol", f.pgtol), ("max_its", f.maxIts),
    ("max_total_its", f.maxTotalIts), ("print_every", f.printEvery), ("err_fcn", f.errFcn),
    ("output_fcn", f.outputFcn)]

def set (f : Fields) (name : String) (v : Value) : Except Fault Fields :=
  match name with
  | "m" => .ok { f with m := v }
  | "factr" => .ok { f with factr := v }
  | "pgtol" => .ok { f with pgtol := v }
  | "max_its" => .ok { f with maxIts := v }
  | "max_total_its" => .ok { f with maxTotalIts := v }
  | "print_every" => .ok { f with printEvery := v }
  | "err_fcn" => .ok { f with errFcn := v }
  | "output_fcn" => .ok { f with outputFcn := v }
  | _ => .error .wrongKind

def ofList (entries : List (String × Value)) : Except Fault Fields :=
  entries.foldlM (fun f (name, v) => f.set name v) {}

def equalsDefault (f : Fields) : Except Fault Bool :=
  go f.toList ({} : Fields).toList
where
  go : List (String × Value) → List (String × Value) → Except Fault Bool
    | (_, v) :: vs, (_, d) :: ds => do
      if ← v.agrees d then go vs ds else .ok false
    | _, _ => .ok true

end Fields

end BoxMin
