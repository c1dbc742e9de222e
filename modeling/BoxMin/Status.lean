import BoxMin.Task

set_option autoImplicit false

namespace BoxMin

inductive Status where
  | converged
  | solverStop
  | warning
  | abnormal
  | error
  | maxIter
  | maxTotalIter
  | infeasible
  deriving DecidableEq, Repr

namespace Status

def all : List Status :=
  [.converged, .solverStop, .warning, .abnormal, .error, .maxIter, .maxTotalIter, .infeasible]

def name : Status → String
  | .converged => "CONVERGED"
  | .solverStop => "SOLVER_STOP"
  | .warning => "WARNING"
  | .abnormal => "ABNORMAL"
  | .error => "ERROR"
  | .maxIter => "MAX_ITER"
  | .maxTotalIter => "MAX_TOTAL_ITER"
  | .infeasible => "INFEASIBLE"

def word : Status → String
  | .converged => "converged"
  | .solverStop => "solver_stop"
  | .warning => "warning"
  | .abnormal => "abnormal"
  | .error => "error"
  | .maxIter => "max_iter"
  | .maxTotalIter => "max_total_iter"
  | .infeasible => "infeasible"

def ofWord? (s : String) : Option Status :=
  all.find? fun t => t.word = s

def ofName? (s : String) : Option Status :=
  all.find? fun t => t.name = s

def ofTask : Task → Status
  | .convergence => .converged
  | .stop => .solverStop
  | .warning => .warning
  | .abnormal => .abnormal
  | _ => .error

def success (s : Status) : Bool := s = .converged

end Status

end BoxMin
