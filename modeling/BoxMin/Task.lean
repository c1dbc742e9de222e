set_option autoImplicit false

namespace BoxMin

inductive Task where
  | start
  | requestFG
  | newX
  | restart
  | convergence
  | stop
  | warning
  | error
  | abnormal
  | unknown
  deriving DecidableEq, Repr

namespace Task

def all : List Task :=
  [.start, .requestFG, .newX, .restart, .convergence, .stop, .warning, .error, .abnormal, .unknown]

theorem mem_all (t : Task) : t ∈ all := by
  cases t <;> decide

def name : Task → String
  | .start => "START"
  | .requestFG => "REQUEST_FG"
  | .newX => "NEW_X"
  | .restart => "RESTART"
  | .convergence => "CONVERGENCE"
  | .stop => "STOP"
  | .warning => "WARNING"
  | .error => "ERROR"
  | .abnormal => "ABNORMAL"
  | .unknown => "UNKNOWN"

def word : Task → String
  | .requestFG => "FG"
  | t => t.name

def ofWord? (s : String) : Option Task :=
  all.find? fun t => t.word = s

def ofName? (s : String) : Option Task :=
  all.find? fun t => t.name = s

def keepsRunning : Task → Bool
  | .requestFG | .newX => true
  | _ => false

end Task

end BoxMin
