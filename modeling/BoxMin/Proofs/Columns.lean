import BoxMin.Proofs.Arguments

/-!
Columns of doubles. A value of one axis, or of two of which the second has length one, is accepted
as its entries in order, and every other shape is refused as a mismatch. Which of the two forms a
bound or a starting point has makes no difference to any check.
-/

set_option autoImplicit false

namespace BoxMin

namespace Value

theorem toGrid_ok {v : Value} {g : Grid Float} (h : v.toGrid = .ok g) :
    v.shape? = some g.shape ∧ g.shape.length ≤ axisLimit ∧
      readAll toEntry v.leaves = .ok g.items := by
  obtain ⟨hshape, hitems⟩ := readGrid_eq_ok.mp h
  obtain ⟨hshape, haxes⟩ := arrayShape_eq_ok.mp hshape
  exact ⟨hshape, haxes, hitems⟩

theorem toDoubles_ok_iff {v : Value} {g : Grid Float} :
    v.toDoubles = .ok g ↔ v.toGrid = .ok g ∧
      ∃ room, checkExtent [(g.items.length : Int)] ElementType.float64.bytes = .ok room := by
  constructor
  · intro h
    obtain ⟨g', hg, h⟩ := exists_of_bind_ok h
    obtain ⟨room, hroom, h⟩ := exists_of_bind_ok h
    cases h
    exact ⟨hg, room, hroom⟩
  · rintro ⟨hg, room, hroom⟩
    rw [toDoubles, bind_of_ok hg, bind_of_ok hroom]

end Value

/-- A grid of one axis, or of two of which the second has length one. -/
def Grid.IsColumn (g : Grid Float) (n : Nat) : Prop := g.shape = [n] ∨ g.shape = [n, 1]

def Error.isMismatch : Error → Bool
  | .notColumn _ _ | .boundLengths _ _ | .startLength _ _ | .gradientLength _ _ => true
  | _ => false

section Accepted

variable {name : String} {v : Value} {g : Grid Float} {n : Nat} {xs : List Float}

theorem Grid.IsColumn.length (h : g.IsColumn n) : g.items.length = n := by
  rw [g.fit]
  rcases h with h | h <;> simp [h, volume]

theorem columnVector_of_column (hg : v.toDoubles = .ok g) (h : g.IsColumn n) :
    columnVector name v = .ok g.items := by
  obtain ⟨shape, items, fit⟩ := g
  rw [columnVector, hg]
  rcases h with rfl | rfl <;> rfl

theorem columnVector_of_other (hg : v.toDoubles = .ok g) (h : ∀ n, ¬ g.IsColumn n) :
    columnVector name v = .error (.notColumn name g.shape) :=
  columnVector_eq_error.mpr <| .shape hg (fun k hk => h k (.inl hk)) fun k hk => h k (.inr hk)

theorem columnVector_cases (name : String) (hg : v.toDoubles = .ok g) :
    (∃ n, g.IsColumn n ∧ columnVector name v = .ok g.items) ∨
      ∃ e, columnVector name v = .error e ∧ e.isMismatch = true := by
  by_cases h : ∃ n, g.IsColumn n
  · obtain ⟨n, hn⟩ := h
    exact .inl ⟨n, hn, columnVector_of_column hg hn⟩
  · exact .inr ⟨_, columnVector_of_other hg (not_exists.mp h), rfl⟩

theorem columnVector_again (h : columnVector name v = .ok xs) :
    columnVector name (.ofFloats xs) = .ok xs := by
  obtain ⟨g, hg, hcolumn⟩ := exists_of_bind_ok h
  have hentries : g.items = xs := by
    unfold Grid.column at hcolumn
    split at hcolumn <;> cases hcolumn <;> rfl
  obtain ⟨-, room, hroom⟩ := Value.toDoubles_ok_iff.mp (orFault_eq_ok.mp hg)
  rw [hentries] at hroom
  exact columnVector_of_column (n := xs.length)
    (Value.toDoubles_ok_iff.mpr ⟨Value.toGrid_ofFloats xs, room, hroom⟩) (.inl rfl)

end Accepted

section Shapes

variable {x0 l u : Value} {gx gl gu : Grid Float} {n : Nat} {x lo hi : List Float}

theorem validateShapes_eq (hl : columnVector "l" l = .ok lo) (hu : columnVector "u" u = .ok hi)
    (hx : columnVector "x0" x0 = .ok x) :
    validateShapes x0 l u =
      if lo.length = hi.length then
        if x.length = lo.length then .ok (x, lo, hi)
        else .error (.startLength x.length lo.length)
      else .error (.boundLengths lo.length hi.length) := by
  rw [validateShapes, boundVectors, bind_of_ok hl, bind_of_ok hu]
  split
  · rw [bind_of_ok rfl]
    dsimp only
    rw [startVector, bind_of_ok hx]
    split <;> rfl
  · rfl

theorem validateShapes_of_columns (hx : x0.toDoubles = .ok gx) (hl : l.toDoubles = .ok gl)
    (hu : u.toDoubles = .ok gu)
    (hcx : gx.IsColumn n) (hcl : gl.IsColumn n) (hcu : gu.IsColumn n) :
    validateShapes x0 l u = .ok (gx.items, gl.items, gu.items) := by
  have hnx := hcx.length
  have hnl := hcl.length
  have hnu := hcu.length
  rw [validateShapes_eq (columnVector_of_column hl hcl) (columnVector_of_column hu hcu)
    (columnVector_of_column hx hcx), if_pos (by omega), if_pos (by omega)]

theorem validateShapes_of_others (hx : x0.toDoubles = .ok gx) (hl : l.toDoubles = .ok gl)
    (hu : u.toDoubles = .ok gu)
    (h : ¬ ∃ n, gx.IsColumn n ∧ gl.IsColumn n ∧ gu.IsColumn n) :
    ∃ e, validateShapes x0 l u = .error e ∧ e.isMismatch = true := by
  rcases columnVector_cases "l" hl with ⟨k, hk, hlower⟩ | ⟨e, hlower, he⟩
  case inr => exact ⟨e, by rw [validateShapes, boundVectors, hlower]; rfl, he⟩
  rcases columnVector_cases "u" hu with ⟨j, hj, hupper⟩ | ⟨e, hupper, he⟩
  case inr => exact ⟨e, by rw [validateShapes, boundVectors, bind_of_ok hlower, hupper]; rfl, he⟩
  rcases columnVector_cases "x0" hx with ⟨i, hi, hstart⟩ | ⟨e, hstart, he⟩
  case inr =>
    -- bounds of different lengths are refused first
    rw [validateShapes, boundVectors, bind_of_ok hlower, bind_of_ok hupper]
    split
    · refine ⟨e, ?_, he⟩
      rw [bind_of_ok rfl]
      dsimp only
      rw [startVector, hstart]
      rfl
    · exact ⟨_, rfl, rfl⟩
  rw [validateShapes_eq hlower hupper hstart, hk.length, hj.length, hi.length]
  split
  · split
    · subst_vars
      exact absurd ⟨_, hi, hk, hj⟩ h
    · exact ⟨_, rfl, rfl⟩
  · exact ⟨_, rfl, rfl⟩

theorem boundVectors_again (h : boundVectors l u = .ok (lo, hi)) :
    boundVectors (.ofFloats lo) (.ofFloats hi) = .ok (lo, hi) := by
  obtain ⟨lo', hlower, h⟩ := exists_of_bind_ok h
  obtain ⟨hi', hupper, h⟩ := exists_of_bind_ok h
  split at h
  case isFalse => cases h
  rename_i hlength
  cases h
  rw [boundVectors, bind_of_ok (columnVector_again hlower),
    bind_of_ok (columnVector_again hupper), if_pos hlength]

theorem startVector_again (h : startVector x0 lo = .ok x) :
    startVector (.ofFloats x) lo = .ok x := by
  obtain ⟨y, hy, h⟩ := exists_of_bind_ok h
  split at h
  case isFalse => cases h
  rename_i hlength
  cases h
  rw [startVector, bind_of_ok (columnVector_again hy), if_pos hlength]

theorem validateShapes_again (h : boundVectors l u = .ok (lo, hi)) (x0 : Value) :
    validateShapes x0 (.ofFloats lo) (.ofFloats hi) =
      startVector x0 lo >>= fun x => .ok (x, lo, hi) :=
  bind_of_ok (boundVectors_again h)

theorem validateShapes_idempotent (h : validateShapes x0 l u = .ok (x, lo, hi)) :
    validateShapes (.ofFloats x) (.ofFloats lo) (.ofFloats hi) = .ok (x, lo, hi) := by
  obtain ⟨⟨lo', hi'⟩, hbounds, h⟩ := exists_of_bind_ok h
  obtain ⟨x', hstart, h⟩ := exists_of_bind_ok h
  cases h
  rw [validateShapes_again hbounds, bind_of_ok (startVector_again hstart)]

/-- A run takes the bounds, and then takes them again together with the starting point. -/
theorem checkArguments_again (fcn : Value) (opts : Option Value) :
    checkArguments fcn l u opts =
      Evaluator.ofValue fcn >>= fun evaluator =>
      boundVectors l u >>= fun (lo, hi) =>
      resolveOptions (.int lo.length) opts >>= fun (options, x0) =>
      validateShapes x0 (.ofFloats lo) (.ofFloats hi) >>= fun (x, lo, hi) =>
      checkBounds lo hi >>= fun _ =>
      .ok ⟨evaluator, options, x, lo, hi⟩ := by
  unfold checkArguments
  cases Evaluator.ofValue fcn with
  | error e => rfl
  | ok evaluator =>
    rcases h : boundVectors l u with e | ⟨lo, hi⟩
    · rfl
    · simp only [bind_of_ok rfl, validateShapes_again h]
      rcases resolveOptions (.int lo.length) opts with e | ⟨o, x0⟩
      · rfl
      · rcases hx : startVector x0 lo with e | x
        · simp only [bind_of_ok rfl, hx]
          rfl
        · simp only [bind_of_ok rfl, hx]

end Shapes

/-- The second value is the first one, or both are columns of the same entries. -/
inductive SameColumn : Value → Value → Prop where
  | refl (v : Value) : SameColumn v v
  | recast {v w : Value} {g g' : Grid Float} {n : Nat} (hv : v.toDoubles = .ok g)
      (hw : w.toDoubles = .ok g') (hg : g.IsColumn n) (hg' : g'.IsColumn n)
      (hentries : g'.items = g.items) : SameColumn v w

inductive SameStart : Option Value → Option Value → Prop where
  | refl (opts : Option Value) : SameStart opts opts
  | recast (before after : List (Value × Value)) {x x' : Value} (hx : SameColumn x x') :
      SameStart (some (.mapping (before ++ (.text "x0", x) :: after)))
        (some (.mapping (before ++ (.text "x0", x') :: after)))

theorem Value.toGrid_array {a a' : NdArray} (haxes : a'.shape.length ≤ axisLimit)
    (hitems : a'.items = a.items) {g : Grid Float} (h : (Value.array a).toGrid = .ok g) :
    ∃ g', (Value.array a').toGrid = .ok g' ∧ g'.shape = a'.shape ∧ g'.items = g.items := by
  obtain ⟨-, hread⟩ := readGrid_eq_ok.mp h
  have hread' : readAll toEntry (Value.array a').leaves = .ok g.items := by
    rw [leaves, hitems]
    exact hread
  have hfit : g.items.length = volume a'.shape :=
    (length_readAll hread').trans ((List.length_map _).trans a'.fit)
  exact ⟨⟨a'.shape, g.items, hfit⟩,
    readGrid_eq_ok.mpr ⟨arrayShape_eq_ok.mpr ⟨rfl, haxes⟩, hread'⟩, rfl, rfl⟩

theorem sameColumn_array {a a' : NdArray} {n : Nat} {g : Grid Float} (hshape : a.shape = [n])
    (hshape' : a'.shape = [n, 1]) (hitems : a'.items = a.items)
    (h : (Value.array a).toDoubles = .ok g) : SameColumn (.array a) (.array a') := by
  obtain ⟨hgrid, hroom⟩ := Value.toDoubles_ok_iff.mp h
  obtain ⟨hg, -⟩ := Value.toGrid_ok hgrid
  obtain ⟨g', hgrid', hg', hentries⟩ :=
    Value.toGrid_array (by simp [hshape', axisLimit]) hitems hgrid
  rw [← hentries] at hroom
  exact .recast h (Value.toDoubles_ok_iff.mpr ⟨hgrid', hroom⟩)
    (.inl ((Option.some.inj hg).symm.trans hshape)) (.inr (hg'.trans hshape')) hentries

section Recast

variable {v w x x' lower lower' upper upper' : Value} {opts opts' : Option Value}
  {before after : List (Value × Value)}

theorem columnVector_recast (h : SameColumn v w) (name : String) :
    columnVector name w = columnVector name v := by
  cases h with
  | refl => rfl
  | recast hv hw hg hg' hentries =>
    rw [columnVector_of_column hv hg, columnVector_of_column hw hg', hentries]

theorem boundVectors_recast (hl : SameColumn lower lower') (hu : SameColumn upper upper') :
    boundVectors lower' upper' = boundVectors lower upper := by
  unfold boundVectors
  rw [columnVector_recast hl, columnVector_recast hu]

theorem startVector_recast (h : SameColumn x x') (lo : List Float) :
    startVector x' lo = startVector x lo := by
  unfold startVector
  rw [columnVector_recast h]

theorem SameColumn.nothing_iff (h : SameColumn x x') : x' = .nothing ↔ x = .nothing := by
  -- nothing is read as an array without axes
  have hnan {g : Grid Float} {n : Nat} (hg : Value.nothing.toDoubles = .ok g) : ¬ g.IsColumn n := by
    obtain ⟨hshape, -⟩ := Value.toGrid_ok (Value.toDoubles_ok_iff.mp hg).1
    have hnil : g.shape = [] := (Option.some.inj hshape).symm
    rintro (hc | hc) <;> simp [hnil] at hc
  cases h with
  | refl => rfl
  | recast hv hw hg hg' =>
    refine iff_of_false ?_ ?_
    · rintro rfl
      exact hnan hw hg'
    · rintro rfl
      exact hnan hv hg

def startEntries (before after : List (Value × Value)) (x : Value) : Sparse :=
  ⟨before ++ (.text "x0", x) :: after⟩

theorem get?_startEntries (key : String) :
    (startEntries before after x).get? key =
      ((⟨before⟩ : Sparse).get? key).or
        (if key = "x0" then some x else (⟨after⟩ : Sparse).get? key) := by
  have hequals : Value.equals (.text "x0") (.text key) = decide (key = "x0") := by
    simp [Value.equals, eq_comm]
  unfold Sparse.get? Value.lookup? startEntries
  simp only [List.find?_append, List.find?_cons, hequals]
  split <;> cases List.find? _ before <;> simp_all

theorem checkKeys_startEntries :
    checkKeys (startEntries before after x') = checkKeys (startEntries before after x) := by
  simp only [checkKeys, Sparse.unknown, Sparse.keys, startEntries, List.map_append, List.map_cons]

theorem checkValues_startEntries :
    checkValues (startEntries before after x') = checkValues (startEntries before after x) := by
  have hfield (key : String) (hkey : key ≠ "x0") :
      (startEntries before after x').field key = (startEntries before after x).field key := by
    unfold Sparse.field
    rw [get?_startEntries, get?_startEntries, if_neg hkey, if_neg hkey]
  unfold checkValues
  rw [hfield "m" (by decide), hfield "factr" (by decide), hfield "pgtol" (by decide),
    hfield "maxIts" (by decide), hfield "maxTotalIts" (by decide), hfield "printEvery" (by decide),
    hfield "errFcn" (by decide), hfield "outputFcn" (by decide)]

theorem startingPoint_startEntries (hx : SameColumn x x') (n : Value) :
    startingPoint n (startEntries before after x') = startingPoint n (startEntries before after x) ∨
      startingPoint n (startEntries before after x) = .ok x ∧
        startingPoint n (startEntries before after x') = .ok x' := by
  unfold startingPoint
  rw [get?_startEntries, get?_startEntries, if_pos rfl, if_pos rfl]
  cases (⟨before⟩ : Sparse).get? "x0" with
  | some y =>
    -- an earlier entry hides this one from both
    exact .inl rfl
  | none =>
    rw [Option.none_or, Option.none_or]
    by_cases hnothing : x = .nothing
    · exact .inl (by rw [hnothing, hx.nothing_iff.mpr hnothing])
    · have hnothing' : x' ≠ .nothing := fun h => hnothing (hx.nothing_iff.mp h)
      right
      constructor
      · cases x <;> first | rfl | exact absurd rfl hnothing
      · cases x' <;> first | rfl | exact absurd rfl hnothing'

theorem resolveOptions_startEntries (n y : Value) :
    resolveOptions n (some (.mapping (before ++ (.text "x0", y) :: after))) =
      checkKeys (startEntries before after x) >>= fun _ =>
        startingPoint n (startEntries before after y) >>= fun x0 =>
          checkValues (startEntries before after x) >>= fun o => .ok (o, x0) := by
  have hread : Sparse.ofValue (.mapping (before ++ (.text "x0", y) :: after)) =
      .ok (startEntries before after y) := by
    cases before <;> rfl
  rw [resolveOptions, Option.getD_some, bind_of_ok (orFault_eq_ok.mpr hread),
    checkKeys_startEntries (x := x), checkValues_startEntries (x := x)]

theorem resolveOptions_recast (h : SameStart opts opts') (n : Value) :
    resolveOptions n opts' = resolveOptions n opts ∨
      ∃ o x x', SameColumn x x' ∧ resolveOptions n opts = .ok (o, x) ∧
        resolveOptions n opts' = .ok (o, x') := by
  cases h with
  | refl => exact .inl rfl
  | @recast before after x x' hx =>
    rw [resolveOptions_startEntries (x := x), resolveOptions_startEntries (x := x)]
    cases checkKeys (startEntries before after x) with
    | error e => exact .inl rfl
    | ok =>
      rw [bind_of_ok rfl, bind_of_ok rfl]
      rcases startingPoint_startEntries hx n with hsame | ⟨hstart, hstart'⟩
      · exact .inl (by rw [hsame])
      · rw [bind_of_ok hstart, bind_of_ok hstart']
        cases checkValues (startEntries before after x) with
        | error e => exact .inl rfl
        | ok o => exact .inr ⟨o, x, x', hx, rfl, rfl⟩

theorem checkArguments_recast (hl : SameColumn lower lower') (hu : SameColumn upper upper')
    (hopts : SameStart opts opts') (fcn : Value) :
    checkArguments fcn lower' upper' opts' = checkArguments fcn lower upper opts := by
  unfold checkArguments
  rw [boundVectors_recast hl hu]
  cases Evaluator.ofValue fcn with
  | error e => rfl
  | ok evaluator =>
    rcases boundVectors lower upper with e | ⟨lo, hi⟩
    · rfl
    · simp only [bind_of_ok rfl]
      rcases resolveOptions_recast hopts (.int lo.length) with
        hsame | ⟨o, x, x', hx, hresolve, hresolve'⟩
      · rw [hsame]
      · rw [bind_of_ok hresolve, bind_of_ok hresolve']
        simp only [startVector_recast hx]

end Recast

end BoxMin
