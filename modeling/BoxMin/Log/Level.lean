import BoxMin.Value.Printed

set_option autoImplicit false

namespace BoxMin

structure LogEntry where
  level : Int
  message : String
  deriving DecidableEq, Repr

namespace Level

def notset : Int := 0
def debug : Int := 10
def info : Int := 20
def warning : Int := 30
def error : Int := 40
def critical : Int := 50

def name (level : Int) : String :=
  if level = notset then "NOTSET"
  else if level = debug then "DEBUG"
  else if level = info then "INFO"
  else if level = warning then "WARNING"
  else if level = error then "ERROR"
  else if level = critical then "CRITICAL"
  else "Level " ++ toString level

/-- The capitals of a letter that has ASCII ones; beyond ASCII these are the dotless i, the long s,
the sharp s and the ligatures of f, i, l, s and t. -/
def capitals (c : Char) : List Char :=
  if c.toNat < 0x80 then [c.toUpper]
  else match c.toNat with
    | 0x131 => ['I']
    | 0x17f => ['S']
    | 0xdf => ['S', 'S']
    | 0xfb00 => ['F', 'F']
    | 0xfb01 => ['F', 'I']
    | 0xfb02 => ['F', 'L']
    | 0xfb03 => ['F', 'F', 'I']
    | 0xfb04 => ['F', 'F', 'L']
    | 0xfb05 => ['S', 'T']
    | 0xfb06 => ['S', 'T']
    | _ => [c]

def capitalized (s : String) : String :=
  String.ofList (s.toList.flatMap capitals)

/-- What a name in capitals stands for. Two of the names are no levels: they stand for a text and
for a table. -/
def named : List (String × Value) :=
  [("CRITICAL", .int critical), ("FATAL", .int critical), ("ERROR", .int error),
    ("WARNING", .int warning), ("WARN", .int warning), ("INFO", .int info),
    ("DEBUG", .int debug), ("NOTSET", .int notset),
    ("BASIC_FORMAT", .text "%(levelname)s:%(name)s:%(message)s"), ("_STYLES", .mapping [])]

/-- A text stands for what its capitals name, or for a warning; other values for themselves. -/
def coerce (v : Value) : Value :=
  match v with
  | .text s => (named.lookup (capitalized s)).getD (.int warning)
  | v => v

def spelled : List (String × Int) :=
  [("CRITICAL", critical), ("FATAL", critical), ("ERROR", error), ("WARNING", warning),
    ("WARN", warning), ("INFO", info), ("DEBUG", debug), ("NOTSET", notset)]

/-- A level that can be set: a whole number, a truth value or a name. Anything else is written out
and compared with its text first, which an array with several places cannot be. -/
def check (v : Value) : Except Fault Int :=
  match v with
  | .int k => .ok k
  | .bool b => .ok (if b then 1 else 0)
  | .text s => match spelled.lookup s with
    | some k => .ok k
    | none => .error .unfit
  | v => if v.isWritable && v.placeCount = 1 then .error .wrongKind else .error .unfit

end Level

end BoxMin
