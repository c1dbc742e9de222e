import BoxMin.Value.Cast

set_option autoImplicit false

namespace BoxMin

def readAll {α β ε : Type} (read : α → Except ε β) : List α → Except ε (List β)
  | [] => .ok []
  | a :: as => do
    let b ← read a
    let bs ← readAll read as
    .ok (b :: bs)

theorem length_readAll {α β ε : Type} {read : α → Except ε β} {as : List α} {bs : List β}
    (h : readAll read as = .ok bs) : bs.length = as.length := by
  induction as generalizing bs with
  | nil => cases h; rfl
  | cons a as ih =>
    simp only [readAll, bind, Except.bind] at h
    split at h
    · cases h
    · split at h
      · cases h
      · rename_i hbs
        cases h
        simp [ih hbs]

def axisLimit : Nat := 64

namespace Value

mutual

def shape? : Value → Option (List Nat)
  | .list vs => itemsShape? vs
  | .tuple vs => itemsShape? vs
  | .array a => some a.shape
  | .cells shape _ => some shape
  | _ => some []

def itemsShape? : List Value → Option (List Nat)
  | [] => some [0]
  | [v] => v.shape?.map (1 :: ·)
  | v :: vs => match v.shape?, itemsShape? vs with
    | some s, some (n :: t) => if s = t then some ((n + 1) :: t) else none
    | _, _ => none

end

theorem itemsShape?_cons_cons_eq_some {v w : Value} {vs : List Value} {shape : List Nat} :
    itemsShape? (v :: w :: vs) = some shape ↔
      ∃ s n, v.shape? = some s ∧ itemsShape? (w :: vs) = some (n :: s) ∧ shape = (n + 1) :: s := by
  rw [itemsShape?]
  · constructor
    · intro h
      split at h
      · rename_i s n t hs ht
        split at h
        · rename_i heq
          cases h
          exact ⟨s, n, hs, heq ▸ ht, heq ▸ rfl⟩
        · cases h
      · cases h
    · rintro ⟨s, n, hs, ht, rfl⟩
      simp only [hs, ht, if_true]
  · simp

def arrayShape (v : Value) : Except Fault (List Nat) :=
  match v.shape? with
  | some shape => if shape.length ≤ axisLimit then .ok shape else .error .unfit
  | none => .error .unfit

theorem arrayShape_eq_ok {v : Value} {shape : List Nat} :
    v.arrayShape = .ok shape ↔ v.shape? = some shape ∧ shape.length ≤ axisLimit := by
  unfold arrayShape
  cases v.shape? with
  | none => simp
  | some shape' =>
    dsimp only
    constructor
    · intro h
      split at h
      · cases h
        exact ⟨rfl, by assumption⟩
      · cases h
    · rintro ⟨h, haxes⟩
      cases h
      exact if_pos haxes

mutual

def leaves : Value → List Value
  | .list vs => itemsLeaves vs
  | .tuple vs => itemsLeaves vs
  | .array a => a.items.map .scalar
  | .cells _ items => List.ofFn items
  | v => [v]

def itemsLeaves : List Value → List Value
  | [] => []
  | v :: vs => v.leaves ++ itemsLeaves vs

end

mutual

theorem length_leaves (v : Value) {shape : List Nat} (hshape : v.shape? = some shape) :
    v.leaves.length = volume shape := by
  cases v with
  | list vs => exact length_itemsLeaves vs hshape
  | tuple vs => exact length_itemsLeaves vs hshape
  | array a =>
    cases hshape
    exact (List.length_map _).trans a.fit
  | cells shape items =>
    cases hshape
    exact List.length_ofFn
  | _ =>
    cases hshape
    rfl

theorem length_itemsLeaves (vs : List Value) {shape : List Nat}
    (hshape : itemsShape? vs = some shape) : (itemsLeaves vs).length = volume shape := by
  cases vs with
  | nil =>
    cases hshape
    rfl
  | cons v vs =>
    cases vs with
    | nil =>
      obtain ⟨s, hs, rfl⟩ := Option.map_eq_some_iff.mp hshape
      simp [itemsLeaves, length_leaves v hs, volume]
    | cons w vs =>
      obtain ⟨s, n, hs, hrest, rfl⟩ := itemsShape?_cons_cons_eq_some.mp hshape
      rw [itemsLeaves, List.length_append, length_leaves v hs, length_itemsLeaves (w :: vs) hrest,
        volume, volume, Nat.succ_mul, Nat.add_comm]

end

/-- The leaves of a value, each read by itself, in the shape of the value. -/
def readGrid {α : Type} (read : Value → Except Fault α) (v : Value) : Except Fault (Grid α) :=
  match hshape : v.arrayShape with
  | .error e => .error e
  | .ok shape =>
    match hitems : readAll read v.leaves with
    | .error e => .error e
    | .ok items =>
      .ok ⟨shape, items, (length_readAll hitems).trans
        (v.length_leaves (arrayShape_eq_ok.mp hshape).1)⟩

theorem readGrid_eq_ok {α : Type} {read : Value → Except Fault α} {v : Value} {g : Grid α} :
    v.readGrid read = .ok g ↔ v.arrayShape = .ok g.shape ∧ readAll read v.leaves = .ok g.items := by
  unfold readGrid
  split
  · rename_i hshape
    simp [hshape]
  · rename_i shape hshape
    split
    · rename_i hitems
      simp [hitems]
    · rename_i items hitems
      obtain ⟨shape', items', fit⟩ := g
      simp [hshape, hitems]

def toGrid (v : Value) : Except Fault (Grid Float) := v.readGrid toEntry

def toVector (v : Value) : Except Fault (List Float) :=
  v.toGrid.map Grid.items

def sharedAxes : List Nat → List Nat → List Nat
  | m :: s, n :: t => if m = n then m :: sharedAxes s t else []
  | _, _ => []

theorem sharedAxes_prefix (s t : List Nat) : sharedAxes s t <+: s ∧ sharedAxes s t <+: t := by
  induction s generalizing t with
  | nil => exact ⟨List.nil_prefix, List.nil_prefix⟩
  | cons m s ih =>
    cases t with
    | nil => exact ⟨List.nil_prefix, List.nil_prefix⟩
    | cons n t =>
      unfold sharedAxes
      split
      · rename_i heq
        subst heq
        obtain ⟨hs, ht⟩ := ih t
        exact ⟨List.cons_prefix_cons.mpr ⟨rfl, hs⟩, List.cons_prefix_cons.mpr ⟨rfl, ht⟩⟩
      · exact ⟨List.nil_prefix, List.nil_prefix⟩

mutual

/-- The axes of a value as an array of values: as many as its parts share. -/
def commonShape : Value → List Nat
  | .list vs => vs.length :: sharedShape vs
  | .tuple vs => vs.length :: sharedShape vs
  | .array a => a.shape
  | .cells shape _ => shape
  | _ => []

def sharedShape : List Value → List Nat
  | [] => []
  | [v] => v.commonShape
  | v :: vs => sharedAxes v.commonShape (sharedShape vs)

end

theorem sharedShape_prefix {vs : List Value} {v : Value} (hv : v ∈ vs) :
    sharedShape vs <+: v.commonShape := by
  induction vs with
  | nil => cases hv
  | cons w vs ih =>
    cases vs with
    | nil =>
      obtain rfl := List.mem_singleton.mp hv
      exact List.prefix_refl _
    | cons u us =>
      obtain ⟨hw, hrest⟩ := sharedAxes_prefix w.commonShape (sharedShape (u :: us))
      cases hv with
      | head => exact hw
      | tail _ hv => exact hrest.trans (ih hv)

def itemsBelow : Nat → Value → List Value
  | 0, v => [v]
  | axes + 1, v => match v.items with
    | .ok vs => vs.flatMap (itemsBelow axes)
    | .error _ => [v]

theorem length_flatMap_of_forall {α β : Type} {as : List α} {f : α → List β} {k : Nat}
    (h : ∀ a ∈ as, (f a).length = k) : (as.flatMap f).length = as.length * k := by
  induction as with
  | nil => simp
  | cons a as ih =>
    obtain ⟨ha, has⟩ := List.forall_mem_cons.mp h
    rw [List.flatMap_cons, List.length_append, ha, ih has, List.length_cons, Nat.succ_mul,
      Nat.add_comm]

/-- A value with axes is a sequence, and its items have the other axes in common. -/
theorem items_of_axes {v : Value} {n : Nat} {rest : List Nat} (h : v.commonShape = n :: rest) :
    ∃ vs, v.items = .ok vs ∧ vs.length = n ∧ ∀ w ∈ vs, rest <+: w.commonShape := by
  cases v with
  | list vs | tuple vs =>
    cases h
    exact ⟨vs, rfl, rfl, fun w hw => sharedShape_prefix hw⟩
  | array a =>
    obtain ⟨⟨shape, items, fit⟩, element⟩ := a
    obtain rfl : shape = n :: rest := h
    cases rest with
    | nil =>
      refine ⟨_, rfl, ?_, fun w hw => List.nil_prefix⟩
      rw [List.length_map, fit, volume_axis]
    | cons m rest =>
      refine ⟨_, rfl, (List.length_map _).trans List.length_ofFn, fun w hw => ?_⟩
      obtain ⟨row, hrow, rfl⟩ := List.mem_map.mp hw
      obtain ⟨i, rfl⟩ := List.mem_ofFn.mp hrow
      exact List.prefix_refl _
  | cells shape items =>
    obtain rfl : shape = n :: rest := h
    cases rest with
    | nil => exact ⟨_, rfl, List.length_ofFn.trans (volume_axis n), fun w hw => List.nil_prefix⟩
    | cons m rest =>
      refine ⟨_, rfl, List.length_ofFn, fun w hw => ?_⟩
      obtain ⟨i, rfl⟩ := List.mem_ofFn.mp hw
      exact List.prefix_refl _
  | _ => cases h

theorem length_itemsBelow {axes : Nat} {v : Value} (h : axes ≤ v.commonShape.length) :
    (v.itemsBelow axes).length = volume (v.commonShape.take axes) := by
  induction axes generalizing v with
  | zero => rfl
  | succ axes ih =>
    cases hshape : v.commonShape with
    | nil =>
      rw [hshape] at h
      cases h
    | cons n rest =>
      rw [hshape] at h
      have haxes : axes ≤ rest.length := Nat.le_of_succ_le_succ h
      obtain ⟨vs, hitems, rfl, hvs⟩ := items_of_axes hshape
      have hbelow : ∀ w ∈ vs, (w.itemsBelow axes).length = volume (rest.take axes) := by
        intro w hw
        obtain ⟨more, hmore⟩ := hvs w hw
        have hlength : axes ≤ w.commonShape.length := by
          rw [← hmore, List.length_append]
          omega
        rw [ih hlength, ← hmore, List.take_append_of_le_length haxes]
      unfold itemsBelow
      rw [hitems]
      exact length_flatMap_of_forall hbelow

/-- A value as an array of values. Parts that do not agree in shape are items. -/
def toCells (v : Value) : Value :=
  let axes := min axisLimit v.commonShape.length
  .cells (v.commonShape.take axes) fun i =>
    (v.itemsBelow axes).get (i.cast (length_itemsBelow (Nat.min_le_right _ _)).symm)

def toArray (t : ElementType) (v : Value) : Except Fault Value := do
  if t = .object then .ok v.toCells
  else
    let grid ← v.readGrid (toScalar t)
    let t := match t with
      | .text _ => .text ((v.leaves.map places).foldl max 1)
      | t => t
    .ok (.array ⟨grid, t⟩)

/-- The row written by assigning a value to `width` places: one row of that width, or one item
for all of them. -/
def toRow (width : Nat) (v : Value) : Except Fault (List Float) := do
  let grid ← v.toGrid
  match grid.shape, grid.items with
  | [], [x] => .ok (List.replicate width x)
  | [n], xs => if n = width then .ok xs else .error .unfit
  | _, _ => .error .unfit

end Value

end BoxMin
