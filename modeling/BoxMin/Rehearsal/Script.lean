import BoxMin.Rehearsal.StandIn
import BoxMin.Solver.Adapter

set_option autoImplicit false

namespace BoxMin

/-- What a scripted call does to the buffers, in this order. -/
structure Move where
  set : Option (List Float) := none
  add : Option (List Float) := none
  gradient : Option (List Float) := none
  signal : Option Signal := none

namespace Move

variable {n : Nat}

def onVector (f : Vector Float n → Vector Float n → Vector Float n) (x : Vector Float n) :
    Option (List Float) → Option (Vector Float n)
  | none => some x
  | some ys => (spread? n ys).map (f x)

def make (m : Move) (b : Buffers n) : Buffers n × Except Error Unit :=
  match onVector (fun _ y => y) b.x m.set with
  | none => (b, .error (.fault .unfit))
  | some x =>
    let b := { b with x }
    match onVector (Vector.zipWith (· + ·)) b.x m.add with
    | none => (b, .error (.fault .unfit))
    | some x =>
      let b := { b with x }
      match onVector (fun _ y => y) b.g m.gradient with
      | none => (b, .error (.fault .unfit))
      | some g =>
        let b := { b with g }
        match m.signal with
        | some signal => (b, .error (.signal signal))
        | none => (b, .ok ())

end Move

structure Script (α : Type) where
  entries : Array (Move × α)
  after : Move × α

namespace Script

variable {α : Type} {n : Nat}

def play (s : Script α) (b : Buffers n) (m : Memory) : Buffers n × Memory × Except Error α :=
  let (move, a) := s.entries[m.played]?.getD s.after
  let m := { m with played := m.played + 1 }
  match move.make b with
  | (b, .error e) => (b, m, .error e)
  | (b, .ok ()) => (b, m, .ok a)

def solver (s : Script Reply) (message : String) : Solver Memory where
  allocate n m memory := (memory, Workspace.allocate (n : Int) m)
  step _ b memory := s.play b memory
  message _ _ := .ok message

end Script

def lineSearchText : String := "FG_LNSRCH"

/-- What a scripted solver says with a task unless the script words it: a routine's text for a
request of f and g, the word of the task otherwise. -/
def Task.scriptedMessage (t : Task) : String :=
  if t = .requestFG then lineSearchText else t.word

inductive Stored where
  | text (task : List UInt8) (csave : Option (List UInt8))
  | codes (status detail : Int)
  deriving DecidableEq, Repr

namespace Stored

def lineSearch (isText : Bool) : Stored :=
  if isText then .text (textBytes lineSearchText) none else .codes 3 302

end Stored

def Workspace.store (w : Workspace) : Stored → Workspace
  | .text task csave =>
    { w with task := .text (padField task), csave := (csave.map padField).getD w.csave }
  | .codes status detail => { w with task := .codes status detail }

def Script.routine (s : Script Stored) : Routine Memory where
  call _ b memory :=
    match s.play b memory with
    | (b, memory, .error e) => (b, memory, .error e)
    | (b, memory, .ok stored) => ({ b with workspace := b.workspace.store stored }, memory, .ok ())

end BoxMin
