import BoxMin.Log.Template

/-!
The loggers of the package. They are made on demand, each with one handler, and kept; setting a
level reaches those made so far and those to come, configuring replaces the handlers of those made
so far. Loggers and handlers are changed one after the other, and one that refuses its level stops
a change half done.
-/

set_option autoImplicit false

namespace BoxMin

def changeEach {α : Type} (change : α → α × Except Fault Unit) : List α → List α × Except Fault Unit
  | [] => ([], .ok ())
  | a :: as =>
    match change a with
    | (a, .error f) => (a :: as, .error f)
    | (a, .ok ()) =>
      let (as, answer) := changeEach change as
      (a :: as, answer)

structure Handler where
  level : Int := Level.notset
  template : String := Template.default
  stream : String := "stderr"
  deriving DecidableEq, Repr

def Handler.setLevel (level : Value) (h : Handler) : Handler × Except Fault Unit :=
  match Level.check level with
  | .error f => (h, .error f)
  | .ok k => ({ h with level := k }, .ok ())

/-- Before it is set up a logger has no handler and passes everything on. -/
structure Logger where
  name : String
  level : Int := Level.notset
  handlers : List Handler := []
  propagate : Bool := true
  deriving DecidableEq, Repr

namespace Logger

def setLevel (level : Value) (l : Logger) : Logger × Except Fault Unit :=
  match Level.check level with
  | .error f => (l, .error f)
  | .ok k =>
    let (handlers, answer) := changeEach (Handler.setLevel level) l.handlers
    ({ l with level := k, handlers }, answer)

def setHandler (level : Value) (template stream : String) (l : Logger) :
    Logger × Except Fault Unit :=
  match Level.check level with
  | .error f => (l, .error f)
  | .ok k =>
    match Handler.setLevel level { template, stream } with
    | (_, .error f) => ({ l with level := k, handlers := [] }, .error f)
    | (h, .ok ()) => ({ l with level := k, handlers := [h] }, .ok ())

def equip (level : Value) (l : Logger) : Except Fault Logger :=
  if l.handlers.isEmpty then
    match l.setHandler level Template.default "stderr" with
    | (_, .error f) => .error f
    | (l, .ok ()) => .ok { l with propagate := false }
  else .ok l

end Logger

/-- The level for loggers to come, and the loggers made so far in that order. -/
structure Registry where
  default : Value := .int Level.warning
  loggers : List Logger := []

namespace Registry

def package : String := "lbfgsb_rc"

def qualify (name : String) : String :=
  if package.toList.isPrefixOf name.toList then name else package ++ "." ++ name

theorem qualify_package : qualify package = package := by
  simp [qualify]

def nameOf : Value → Except Fault String
  | .nothing => .ok package
  | .text s => .ok (qualify s)
  | .bytes _ => .error .wrongKind
  | _ => .error .noAttribute

def find? (r : Registry) (name : String) : Option Logger :=
  r.loggers.find? fun l => l.name = name

def getNamed (r : Registry) (name : String) : Registry × Except Fault Logger :=
  match r.find? name with
  | some l => (r, .ok l)
  | none =>
    match Logger.equip r.default { name } with
    | .error f => (r, .error f)
    | .ok l => ({ r with loggers := r.loggers ++ [l] }, .ok l)

def get (r : Registry) (name : Value) : Registry × Except Fault Logger :=
  match nameOf name with
  | .error f => (r, .error f)
  | .ok name => r.getNamed name

def loaded : Registry :=
  (({} : Registry).getNamed (qualify "driver")).1

/-- Changes all loggers; their new level is then the one for those to come. -/
def changeAll (r : Registry) (level : Value) (change : Logger → Logger × Except Fault Unit) :
    Registry × Except Fault Unit :=
  match changeEach change r.loggers with
  | (loggers, .error f) => ({ r with loggers }, .error f)
  | (loggers, .ok ()) => (⟨level, loggers⟩, .ok ())

def setLevel (r : Registry) (level : Value) : Registry × Except Fault Unit :=
  r.changeAll (Level.coerce level) (Logger.setLevel (Level.coerce level))

/-- Gives all loggers one new handler, and sets the level. The template is looked at first. -/
def configure (r : Registry) (level format : Value) (stream : String) :
    Registry × Except Fault Unit :=
  match Template.ofValue format with
  | .error f => (r, .error f)
  | .ok template =>
    r.changeAll (Level.coerce level) (Logger.setHandler (Level.coerce level) template stream)

end Registry

inductive LogCall where
  | get (name : Value)
  | setLevel (level : Value)
  | configure (level format : Value) (stream : String)

def LogCall.perform (r : Registry) : LogCall → Registry × Except Fault (Option Logger)
  | get name =>
    let (r, answer) := r.get name
    (r, answer.map some)
  | setLevel level =>
    let (r, answer) := r.setLevel level
    (r, answer.map fun _ => none)
  | configure level format stream =>
    let (r, answer) := r.configure level format stream
    (r, answer.map fun _ => none)

namespace Registry

/-- The names of the loggers above, nearest first. Of two dots next to each other only the second
one parts. -/
def ancestorNames : Nat → List Char → List (List Char)
  | 0, _ => []
  | fuel + 1, reversed =>
    match reversed.dropWhile (· ≠ '.') with
    | '.' :: rest =>
      if rest.isEmpty then [] else rest.reverse :: ancestorNames fuel (rest.drop 1)
    | _ => []

def above (r : Registry) (l : Logger) : List Logger :=
  (ancestorNames l.name.length l.name.toList.reverse).filterMap fun cs =>
    r.find? (String.ofList cs)

/-- The first level above zero-valued ones, from the logger upwards; a warning at the top. -/
def effectiveLevel (r : Registry) (l : Logger) : Int :=
  match (l :: r.above l).find? fun l => l.level ≠ Level.notset with
  | some l => l.level
  | none => Level.warning

/-- Does the logger pass messages of the level on? Levels up to zero are off. -/
def passes (r : Registry) (l : Logger) (level : Int) : Bool :=
  0 < level && r.effectiveLevel l ≤ level

/-- The handlers met on the way up, as far as loggers let it go on; `outer` are those at the top. -/
def climb (outer : List Handler) : List Logger → List Handler
  | [] => outer
  | l :: above => l.handlers ++ if l.propagate then climb outer above else []

def reached (r : Registry) (outer : List Handler) (l : Logger) (entry : LogEntry) : List Handler :=
  if r.passes l entry.level then
    (climb outer (l :: r.above l)).filter fun h => h.level ≤ entry.level
  else []

def written (r : Registry) (outer : List Handler) (l : Logger) (entry : LogEntry) :
    List (String × String) :=
  (r.reached outer l entry).filterMap fun h =>
    (Template.line? h.template ⟨l.name, entry⟩).map (h.stream, ·)

def byStream (written : List (String × String)) : List (String × String) :=
  (written.map (·.1)).eraseDups.map fun stream =>
    (stream, String.join ((written.filter fun w => w.1 = stream).map (·.2)))

def sorted (r : Registry) : List Logger :=
  r.loggers.mergeSort fun a b => a.name ≤ b.name

def emitAll (r : Registry) (outer : List Handler) (name : String) (entries : List LogEntry) :
    List (String × String) :=
  match r.getNamed name with
  | (r, .ok l) => entries.flatMap (r.written outer l)
  | (_, .error _) => []

end Registry

end BoxMin
