import BoxMin.Error

set_option autoImplicit false

namespace BoxMin

inductive BoundKind where
  | free
  | lower
  | both
  | upper
  deriving DecidableEq, Repr

namespace BoundKind

def code : BoundKind → Nat
  | .free => 0
  | .lower => 1
  | .both => 2
  | .upper => 3

def name : BoundKind → String
  | .free => "NONE"
  | .lower => "LOWER"
  | .both => "BOTH"
  | .upper => "UPPER"

def hasLower : BoundKind → Bool
  | .lower | .both => true
  | _ => false

def hasUpper : BoundKind → Bool
  | .upper | .both => true
  | _ => false

def ofBounds (lower upper : Float) : BoundKind :=
  match lower.isFinite, upper.isFinite with
  | true, true => .both
  | true, false => .lower
  | false, true => .upper
  | false, false => .free

theorem hasLower_ofBounds (l u : Float) : (ofBounds l u).hasLower = l.isFinite := by
  unfold ofBounds; cases l.isFinite <;> cases u.isFinite <;> rfl

theorem hasUpper_ofBounds (l u : Float) : (ofBounds l u).hasUpper = u.isFinite := by
  unfold ofBounds; cases l.isFinite <;> cases u.isFinite <;> rfl

/-- The kind that is left where codes are kept as elements of a type: truth values only tell a free
coordinate from the others. -/
def within (t : ElementType) (k : BoundKind) : BoundKind :=
  if t = .bool then (if k = .free then .free else .lower) else k

end BoundKind

/-- Pairs two vectors up; one of a single entry is repeated for the other. -/
def pairUp? (xs ys : List Float) : Option (List (Float × Float)) :=
  if xs.length = ys.length then some (xs.zip ys)
  else match xs, ys with
    | [x], ys => some (ys.map (x, ·))
    | xs, [y] => some (xs.map (·, y))
    | _, _ => none

theorem pairUp?_of_length_eq {xs ys : List Float} (h : xs.length = ys.length) :
    pairUp? xs ys = some (xs.zip ys) := by
  simp [pairUp?, h]

def encodeBounds (lower upper : List Float) : Except Error (List BoundKind) :=
  match pairUp? lower upper with
  | some pairs => .ok (pairs.map fun (l, u) => .ofBounds l u)
  | none => .error (.fault .unfit)

/-- A bound as the solver reads it: zero where the side is free. -/
def solverBound (x : Float) : Float :=
  if x.isFinite then x else 0.0

def solverBounds (xs : List Float) : List Float :=
  xs.map solverBound

@[simp] theorem length_solverBounds (xs : List Float) :
    (solverBounds xs).length = xs.length := by
  simp [solverBounds]

def crossed (lower upper : Float) : Bool :=
  lower.isFinite && upper.isFinite && upper < lower

def crossedIndices (pairs : List (Float × Float)) : List Nat :=
  (pairs.zipIdx.filter fun p => crossed p.1.1 p.1.2).map (·.2)

def checkBounds (lower upper : List Float) : Except Error Unit :=
  match pairUp? lower upper with
  | none => .error (.fault .unfit)
  | some pairs =>
    match crossedIndices pairs with
    | [] => .ok ()
    | is => .error (.crossedBounds is)

end BoxMin
