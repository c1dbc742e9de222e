import BoxMin.Proofs.Run.Setup

set_option autoImplicit false

namespace BoxMin

theorem takenBytes_cons (k : Nat) (rest : List Nat) (b : Nat) :
    takenBytes (k :: rest) b = k * takenBytes rest b := by
  rw [takenBytes, takenBytes, volume, Nat.mul_assoc]

theorem countedBytes_cons (k : Nat) (rest : List Nat) (b : Nat) :
    countedBytes (k :: rest) b = max 1 k * countedBytes rest b := by
  unfold countedBytes
  rcases Nat.eq_zero_or_pos k with rfl | hk
  · simp
  · rw [List.filter_cons_of_pos (by simpa using hk), volume, Nat.mul_assoc,
      Nat.max_eq_right hk]

/-- An array whose first axis is shorter and whose elements are no larger finds room too. -/
theorem checkExtent_mono {j k : Int} {rest : List Int} {b b' : Nat} {shape : List Nat} (hj : 0 ≤ j)
    (hjk : j ≤ k) (hb : b' ≤ b) (h : checkExtent (k :: rest) b = .ok shape) :
    checkExtent (j :: rest) b' = .ok ((j :: rest).map Int.toNat) := by
  have haxis : j.toNat ≤ k.toNat := by omega
  have hcounted : countedBytes ((j :: rest).map Int.toNat) b' ≤
      countedBytes ((k :: rest).map Int.toNat) b := by
    simp only [List.map_cons, countedBytes_cons]
    exact Nat.mul_le_mul (by omega) (Nat.mul_le_mul_left _ hb)
  have htaken : takenBytes ((j :: rest).map Int.toNat) b' ≤
      takenBytes ((k :: rest).map Int.toNat) b := by
    simp only [List.map_cons, takenBytes_cons]
    exact Nat.mul_le_mul haxis (Nat.mul_le_mul_left _ hb)
  unfold checkExtent at h ⊢
  dsimp only at h ⊢
  split at h
  · cases h
  · rename_i hcount
    split at h
    · cases h
    · rename_i hroom
      simp only [List.any_cons, Bool.or_eq_true, decide_eq_true_eq, not_or] at hcount
      obtain ⟨⟨-, hrest⟩, hword⟩ := hcount
      rw [if_neg, if_neg]
      · omega
      · simp only [List.any_cons, Bool.or_eq_true, decide_eq_true_eq, not_or]
        exact ⟨⟨by omega, hrest⟩, by omega⟩

theorem IntType.least_le_zero (t : IntType) : t.least ≤ 0 := by
  cases t <;> decide

theorem IntType.holds_of_le {t : IntType} {j k : Int} (hj : 0 ≤ j) (hjk : j ≤ k)
    (h : t.holds k = true) : t.holds j = true := by
  have hleast := t.least_le_zero
  simp only [holds, decide_eq_true_eq] at h ⊢
  omega

namespace Area

theorem size_ofLength {size : Int} {element : ElementType} {area : Area} (hsize : 0 ≤ size)
    (h : ofLength size element = .ok area) : (area.size : Int) = size := by
  unfold ofLength at h
  split at h
  · cases h
  · cases hextent : checkExtent [size] element.bytes with
    | error f => simp [hextent, Except.map] at h
    | ok shape =>
      simp only [hextent, Except.map, Except.ok.injEq] at h
      rw [← h]
      exact Int.toNat_of_nonneg hsize

theorem ofLength_computed {k : Int} {length : Except Fault Operand} {element : ElementType}
    {area : Area} (hlength : length = .ok (.plain k)) :
    orFault (do ofLength (← length).value element) = .ok area ↔ ofLength k element = .ok area := by
  subst hlength
  exact orFault_eq_ok

theorem ofLength_mono {j k : Int} {t : IntType} {area : Area} (hj : 0 ≤ j) (hjk : j ≤ k)
    (h : ofLength k .float64 = .ok area) : ofLength j (.int t) = .ok ⟨j.toNat, .int t⟩ := by
  have hbytes : ElementType.bytes (.int t) ≤ ElementType.float64.bytes := by cases t <;> decide
  unfold ofLength at h ⊢
  split at h
  · cases h
  · rename_i hholds
    have hholds : IntType.int64.holds j = true := IntType.holds_of_le hj hjk (by simpa using hholds)
    cases hextent : checkExtent [k] ElementType.float64.bytes with
    | error f => simp [hextent, Except.map] at h
    | ok shape => simp [hholds, checkExtent_mono hj hjk hbytes hextent, Except.map]

end Area

def Options.recordAxes (o : Options) : List Int := [o.maxIts, (2 + o.outputFcn.length : Nat)]

theorem Value.toLength_int (k : Int) :
    (Value.int k).toLength = if IntType.int64.holds k then .ok k else .error .unfit := by
  simp only [Value.toLength, Value.toCount, bind, Except.bind]

theorem History.ofValues_tuples (k : Value) (outputs displays : List Value) :
    History.ofValues k (.tuple outputs) (.tuple displays) = (do
      let k ← k.toLength
      let _ ← checkExtent [k, (2 + outputs.length : Nat)] ElementType.float64.bytes
      .ok { capacity := k.toNat, outputs, displays }) := by
  simp only [ofValues, Value.items, bind, Except.bind]

/-- A record can be made exactly if a word counts its rows and there is room for it. -/
theorem Options.history_ok_iff {o : Options} :
    (∃ record, o.history = .ok record) ↔
      IntType.int64.holds o.maxIts = true ∧
        ∃ shape, checkExtent o.recordAxes ElementType.float64.bytes = .ok shape := by
  unfold history recordAxes
  rw [History.ofValues_tuples, Value.toLength_int, List.length_map]
  constructor
  · rintro ⟨record, h⟩
    obtain ⟨k, hk, h⟩ := exists_of_bind_ok (orFault_eq_ok.mp h)
    obtain ⟨shape, hextent, -⟩ := exists_of_bind_ok h
    split at hk
    · rename_i hholds
      cases hk
      exact ⟨hholds, shape, hextent⟩
    · cases hk
  · rintro ⟨hholds, shape, hextent⟩
    rw [if_pos hholds, bind_of_ok rfl, bind_of_ok hextent]
    exact ⟨_, rfl⟩

/-- A record for fewer rows can be made where one for more can. -/
theorem Options.history_mono {o : Options} {k : Nat} (hk : o.maxIts ≤ k)
    (h : ∃ record, Options.history { o with maxIts := k } = .ok record) :
    ∃ record, o.history = .ok record := by
  obtain ⟨hholds, shape, hextent⟩ := history_ok_iff.mp h
  have hrows : (0 : Int) ≤ o.maxIts := Int.natCast_nonneg _
  have hfewer : (o.maxIts : Int) ≤ k := by omega
  exact history_ok_iff.mpr ⟨IntType.holds_of_le hrows hfewer hholds, _,
    checkExtent_mono hrows hfewer (Nat.le_refl _) hextent⟩

end BoxMin
