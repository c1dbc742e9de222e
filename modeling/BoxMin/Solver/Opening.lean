import BoxMin.Solver.Adapter

set_option autoImplicit false

namespace BoxMin

def intoBounds (kind : BoundKind) (lower upper x : Float) : Float :=
  if kind.hasLower && x < lower then lower
  else if kind.hasUpper && upper < x then upper
  else x

def projectedEntry (kind : BoundKind) (lower upper x g : Float) : Float :=
  if g < 0.0 then
    if kind.hasUpper then (if x - upper > g then x - upper else g) else g
  else if kind.hasLower then (if x - lower < g then x - lower else g) else g

def Query.boxed (q : Query) : List (BoundKind × Float × Float) :=
  q.kinds.zip (q.lower.zip q.upper)

def projectedNorm (q : Query) (x g : List Float) : Float :=
  ((q.boxed.zip (x.zip g)).map fun ((k, l, u), x, g) => (projectedEntry k l u x g).abs).foldl
    (fun a b => if a < b then b else a) 0.0

def pointInBox {n : Nat} (q : Query) (x : Vector Float n) : Vector Float n :=
  x.mapIdx fun i xi => match q.boxed[i]? with
    | some (k, l, u) => intoBounds k l u xi
    | none => xi

def opening {n : Nat} (q : Query) (x g : Vector Float n) (status : Int) :
    Vector Float n × Int × Int :=
  if status = 0 then
    if n = 0 then (x, 7, 712)
    else if q.m ≤ 0 then (x, 7, 711)
    else (pointInBox q x, 3, 301)
  else if projectedNorm q x.toList g.toList ≤ q.pgtol then (x, 4, 401)
  else (x, 3, 302)

def openingRoutine (σ : Type) : Routine σ where
  call c b s :=
    let status := match b.workspace.task with
      | .codes status _ => status
      | .text _ => 0
    let (x, status, detail) := opening c.query b.x b.g status
    ({ b with x, workspace := { b.workspace with task := .codes status detail } }, s, .ok ())

end BoxMin
