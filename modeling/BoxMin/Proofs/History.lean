import BoxMin.History.Basic

set_option autoImplicit false

namespace BoxMin

namespace Value

theorem itemsShape?_floats (x : Float) (xs : List Float) :
    itemsShape? ((x :: xs).map .float) = some [xs.length + 1] := by
  induction xs generalizing x with
  | nil => rfl
  | cons y ys ih =>
    have h := ih y
    simp only [List.map_cons] at h ⊢
    simp [itemsShape?, shape?, h]

theorem itemsLeaves_floats (xs : List Float) :
    itemsLeaves (xs.map .float) = xs.map .float := by
  induction xs with
  | nil => rfl
  | cons x xs ih => simp [itemsLeaves, leaves, ih]

theorem readAll_toEntry_floats (xs : List Float) :
    readAll toEntry (xs.map .float) = .ok xs := by
  induction xs with
  | nil => rfl
  | cons x xs ih => simp [readAll, ih, toEntry, toFloat, bind, Except.bind]

theorem toRow_floats (x : Float) (xs : List Float) :
    (list ((x :: xs).map .float)).toRow (xs.length + 1) = .ok (x :: xs) := by
  have hshape : (list ((x :: xs).map .float)).shape? = some [xs.length + 1] := by
    rw [shape?, itemsShape?_floats]
  have hgrid : (list ((x :: xs).map .float)).toGrid = .ok (.axis (x :: xs)) := by
    refine readGrid_eq_ok.mpr ⟨arrayShape_eq_ok.mpr ⟨hshape, by simp [Grid.axis, axisLimit]⟩, ?_⟩
    rw [leaves, itemsLeaves_floats]
    exact readAll_toEntry_floats (x :: xs)
  rw [toRow, hgrid]
  exact if_pos rfl

theorem readAll_toEntry_doubles (xs : List Float) :
    readAll toEntry ((xs.map Scalar.double).map .scalar) = .ok xs := by
  induction xs with
  | nil => rfl
  | cons x xs ih =>
    have hx : toEntry (.scalar (.double x)) = .ok x := rfl
    simp only [List.map_cons, readAll, hx, ih]
    rfl

theorem toGrid_ofFloats (xs : List Float) : (ofFloats xs).toGrid = .ok (.axis xs) := by
  have hshape : (ofFloats xs).shape? = some [xs.length] := by
    simp [ofFloats, NdArray.ofFloats, shape?, Grid.axis]
  exact readGrid_eq_ok.mpr
    ⟨arrayShape_eq_ok.mpr ⟨hshape, by simp [Grid.axis, axisLimit]⟩, readAll_toEntry_doubles xs⟩

theorem toVector_ofFloats (xs : List Float) : (ofFloats xs).toVector = .ok xs := by
  rw [toVector, toGrid_ofFloats]
  rfl

end Value

namespace History

theorem push_eq_ok_iff {h h' : History} {row : List Float} :
    h.push row = .ok h' ↔
      h.size < h.capacity ∧ row.length = h.width ∧ h' = { h with rows := h.rows.push row } := by
  unfold push
  split
  · simp; omega
  · split
    · simp_all
    · simp_all [eq_comm]

theorem append_floats (h : History) (x : Float) (xs : List Float) :
    h.append (.list ((x :: xs).map .float)) = h.push (x :: xs) := by
  have hlength : (Value.list ((x :: xs).map .float)).length = .ok (xs.length + 1) := by
    simp [Value.length, Value.items, Except.map]
  unfold append push
  simp only [hlength, List.length_cons]
  split
  · rfl
  · split
    · rfl
    · rename_i hwidth
      have hwidth : xs.length + 1 = h.width := by omega
      rw [← hwidth, Value.toRow_floats]

end History

end BoxMin
