import BoxMin.Proofs.Run.Setup
import BoxMin.Value.Tabular

set_option autoImplicit false

namespace BoxMin

namespace Value

/-- An entry of a row as a double. Nothing is NaN; a sequence is no entry, and an array is one only
if it has no axes. -/
def toCell : Value → Except Fault Float
  | .list _ | .tuple _ => .error .unfit
  | .array a => match a.single? with
    | some s => toEntry (.scalar s)
    | none => .error .unfit
  | .cells [] items => (items ⟨0, Nat.one_pos⟩).toEntry
  | .cells _ _ => .error .unfit
  | v => v.toEntry

theorem itemsShape?_ne_nil (vs : List Value) : itemsShape? vs ≠ some [] := by
  cases vs with
  | nil => simp [itemsShape?]
  | cons v vs =>
    cases vs with
    | nil => simp [itemsShape?]
    | cons w vs =>
      intro h
      obtain ⟨s, n, -, -, haxis⟩ := itemsShape?_cons_cons_eq_some.mp h
      cases haxis

theorem itemsShape?_eq_axis_iff {vs : List Value} (hne : vs ≠ []) {k : Nat} :
    itemsShape? vs = some [k] ↔ k = vs.length ∧ ∀ v ∈ vs, v.shape? = some [] := by
  induction vs generalizing k with
  | nil => exact absurd rfl hne
  | cons v vs ih =>
    cases vs with
    | nil =>
      simp only [itemsShape?, Option.map_eq_some_iff, List.cons.injEq]
      constructor
      · rintro ⟨s, hs, hk, rfl⟩
        simp [hs, ← hk]
      · rintro ⟨hk, hs⟩
        exact ⟨[], hs v (by simp), hk.symm, rfl⟩
    | cons w vs =>
      rw [itemsShape?_cons_cons_eq_some]
      constructor
      · rintro ⟨s, n, hs, ht, haxis⟩
        cases haxis
        obtain ⟨rfl, hrest⟩ := (ih (List.cons_ne_nil w vs)).mp ht
        exact ⟨rfl, List.forall_mem_cons.mpr ⟨hs, hrest⟩⟩
      · rintro ⟨rfl, hall⟩
        obtain ⟨hs, hrest⟩ := List.forall_mem_cons.mp hall
        have ht := (ih (List.cons_ne_nil w vs)).mpr ⟨rfl, hrest⟩
        exact ⟨[], (w :: vs).length, hs, ht, rfl⟩

theorem leaf_of_shape {v : Value} (hs : v.shape? = some []) :
    ∃ w, v.leaves = [w] ∧ v.toCell = w.toEntry := by
  cases v with
  | list vs | tuple vs => exact absurd hs (itemsShape?_ne_nil vs)
  | array a =>
    obtain ⟨⟨shape, items, fit⟩, element⟩ := a
    obtain rfl : shape = [] := Option.some.inj hs
    obtain ⟨s, rfl⟩ := List.length_eq_one_iff.mp fit
    exact ⟨.scalar s, rfl, rfl⟩
  | cells shape items =>
    obtain rfl : shape = [] := Option.some.inj hs
    exact ⟨items ⟨0, Nat.one_pos⟩, rfl, rfl⟩
  | _ => exact ⟨_, rfl, rfl⟩

theorem toCell_of_axes {v : Value} (hs : v.shape? ≠ some []) : v.toCell = .error .unfit := by
  cases v with
  | list | tuple => rfl
  | array a =>
    obtain ⟨⟨shape, items, fit⟩, element⟩ := a
    cases shape with
    | nil => exact absurd rfl hs
    | cons => rfl
  | cells shape items =>
    cases shape with
    | nil => exact absurd rfl hs
    | cons => rfl
  | _ => exact absurd rfl hs

theorem readAll_leaves {vs : List Value} (hs : ∀ v ∈ vs, v.shape? = some []) :
    readAll toEntry (itemsLeaves vs) = readAll toCell vs := by
  induction vs with
  | nil => rfl
  | cons v vs ih =>
    obtain ⟨hs, hs'⟩ := List.forall_mem_cons.mp hs
    obtain ⟨w, hleaves, hcell⟩ := leaf_of_shape hs
    simp only [itemsLeaves, hleaves, List.singleton_append, readAll, hcell, ih hs']

theorem readAll_ok_iff {α β ε : Type} {read : α → Except ε β} {as : List α} :
    (∃ bs, readAll read as = .ok bs) ↔ ∀ a ∈ as, ∃ b, read a = .ok b := by
  induction as with
  | nil => simp [readAll]
  | cons a as ih =>
    rw [List.forall_mem_cons, ← ih]
    cases ha : read a with
    | error e => simp [readAll, ha, bind, Except.bind]
    | ok b =>
      cases has : readAll read as with
      | error e => simp [readAll, ha, has, bind, Except.bind]
      | ok bs => simp [readAll, ha, has, bind, Except.bind]

theorem shape_of_toRow {v : Value} {width : Nat} {xs : List Float} (h : v.toRow width = .ok xs) :
    v.shape? = some [] ∨ v.shape? = some [width] := by
  obtain ⟨⟨shape, items, fit⟩, hgrid, hrow⟩ := exists_of_bind_ok h
  obtain ⟨hshape, -⟩ := arrayShape_eq_ok.mp (readGrid_eq_ok.mp hgrid).1
  dsimp only at hshape hrow
  split at hrow
  · exact .inl hshape
  · split at hrow
    · rename_i hn
      exact .inr (hn ▸ hshape)
    · cases hrow
  · cases hrow

theorem toRow_entries {vs : List Value} (hne : vs ≠ []) (xs : List Float) :
    (list vs).toRow vs.length = .ok xs ↔ readAll toCell vs = .ok xs := by
  have hshape : (list vs).shape? = itemsShape? vs := by rw [shape?]
  by_cases hs : ∀ v ∈ vs, v.shape? = some []
  · have haxis : (list vs).arrayShape = .ok [vs.length] := arrayShape_eq_ok.mpr
      ⟨hshape.trans ((itemsShape?_eq_axis_iff hne).mpr ⟨rfl, hs⟩), by simp [axisLimit]⟩
    have hleaves : readAll toEntry (list vs).leaves = readAll toCell vs := by
      rw [leaves, readAll_leaves hs]
    constructor
    · intro hrow
      obtain ⟨⟨shape, items, fit⟩, hgrid, hrow⟩ := exists_of_bind_ok hrow
      obtain ⟨haxis', hitems⟩ := readGrid_eq_ok.mp hgrid
      obtain rfl : [vs.length] = shape := Except.ok.inj (haxis.symm.trans haxis')
      have hxs : items = xs := Except.ok.inj ((if_pos rfl).symm.trans hrow)
      exact hxs ▸ hleaves ▸ hitems
    · intro hcells
      have hfit : xs.length = volume [vs.length] :=
        (length_readAll hcells).trans (volume_axis _).symm
      have hgrid : (list vs).toGrid = .ok ⟨[vs.length], xs, hfit⟩ :=
        readGrid_eq_ok.mpr ⟨haxis, hleaves.trans hcells⟩
      rw [toRow, hgrid]
      exact if_pos rfl
  · -- an entry with axes of its own fits no place, and it is no double either
    refine iff_of_false (fun hrow => hs ?_) (fun hcells => hs fun v hv => ?_)
    · rcases shape_of_toRow hrow with hnone | haxis
      · exact absurd (hshape ▸ hnone) (itemsShape?_ne_nil vs)
      · exact ((itemsShape?_eq_axis_iff hne).mp (hshape ▸ haxis)).2
    · obtain ⟨y, hy⟩ := readAll_ok_iff.mp ⟨xs, hcells⟩ v hv
      by_cases hv : v.shape? = some []
      · exact hv
      · rw [toCell_of_axes hv] at hy
        cases hy

def sequence (isTuple : Bool) (vs : List Value) : Value := if isTuple then .tuple vs else .list vs

theorem length_sequence (isTuple : Bool) (vs : List Value) :
    (sequence isTuple vs).length = .ok vs.length := by
  cases isTuple <;> rfl

theorem toRow_sequence (isTuple : Bool) (vs : List Value) (width : Nat) :
    (sequence isTuple vs).toRow width = (list vs).toRow width := by
  cases isTuple <;> rfl

def cells? (width : Nat) (vs : List Value) : Option (List Float) :=
  if vs.length = width then (readAll toCell vs).toOption else none

theorem cells?_eq_some_iff {width : Nat} {vs : List Value} {xs : List Float} :
    cells? width vs = some xs ↔ vs.length = width ∧ readAll toCell vs = .ok xs := by
  unfold cells?
  cases readAll toCell vs <;> simp [Except.toOption]

theorem exists_cells?_iff {width : Nat} {vs : List Value} :
    (∃ xs, cells? width vs = some xs) ↔ vs.length = width ∧ ∀ v ∈ vs, ∃ y, v.toCell = .ok y := by
  simp only [cells?_eq_some_iff, exists_and_left, readAll_ok_iff]

theorem length_cells? {width : Nat} {vs : List Value} {xs : List Float}
    (h : cells? width vs = some xs) : xs.length = width := by
  obtain ⟨hwidth, hread⟩ := cells?_eq_some_iff.mp h
  rw [length_readAll hread, hwidth]

theorem toRow_cells? {width : Nat} (isTuple : Bool) {vs : List Value} (hwidth : vs.length = width)
    (hpos : 0 < width) :
    ((sequence isTuple vs).toRow width).toOption = cells? width vs := by
  subst hwidth
  have hne : vs ≠ [] := List.ne_nil_of_length_pos hpos
  have hrow := toRow_entries hne
  rw [toRow_sequence, cells?, if_pos rfl]
  cases hlist : (list vs).toRow vs.length with
  | ok xs => rw [(hrow xs).mp hlist]
  | error f =>
    cases hread : readAll toCell vs with
    | ok xs =>
      rw [(hrow xs).mpr hread] at hlist
      cases hlist
    | error f' => rfl

theorem readAll_toCell_floats (xs : List Float) : readAll toCell (xs.map .float) = .ok xs := by
  induction xs with
  | nil => rfl
  | cons x xs ih =>
    simp only [List.map_cons, readAll, ih]
    rfl

theorem cells?_floats {width : Nat} (v : Value) {xs : List Float} (hwidth : xs.length + 1 = width) :
    cells? width (v :: xs.map .float) = v.toCell.toOption.map (· :: xs) := by
  have hlength : (v :: xs.map Value.float).length = width := by simpa using hwidth
  rw [cells?, if_pos hlength]
  simp only [readAll, readAll_toCell_floats]
  cases v.toCell <;> rfl

end Value

end BoxMin
