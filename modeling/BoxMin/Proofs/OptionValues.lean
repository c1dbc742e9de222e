import BoxMin.Proofs.Numbers
import BoxMin.Proofs.Options

/-!
Which values the number options take. Counts and tolerances are tested as doubles: the answer is the
one for the value itself unless its nearest double has another one, or there is none.
-/

set_option autoImplicit false

namespace BoxMin

section Refusals

variable {key : String} {v : Value} {rule : OptionRule}

theorem optionRefused_of_writable (h : v.isWritable = true) :
    optionRefused key v rule = .invalidOption key v rule := by
  rw [optionRefused, if_pos h]

theorem optionRefused_of_not_writable (h : v.isWritable = false) :
    optionRefused key v rule = .fault .unfit := by
  rw [optionRefused, h]
  rfl

theorem names_of_writable {α : Type} {e : Error} (h : v.isWritable = true)
    (he : (Except.error (optionRefused key v rule) : Except Error α) = .error e) :
    ∃ w rule, e = .invalidOption key w rule := by
  rw [optionRefused_of_writable h] at he
  exact ⟨v, rule, (Except.error.inj he).symm⟩

end Refusals

section Counts

variable {key : String} {minimum : Nat} {v : Value} {k : Int} {x : Float} {r : ℚ} {fault : Fault}

def atLeast (key : String) (minimum : Nat) (k : Int) : Except Error Nat :=
  if k < minimum then .error (optionRefused key (.int k) (.atLeast minimum)) else .ok k.toNat

theorem wholeOption_of_not_number (h : ¬ v.IsNumber) :
    wholeOption key minimum v = .error (optionRefused key v .whole) := by
  unfold wholeOption
  split
  case h_1 b => rfl
  case h_2 hbool =>
    have hreal := Value.isReal_of_not_isNumber h hbool
    have hintegral : v.isIntegral ≠ true := fun hintegral => by
      rw [Value.isReal_of_isIntegral hintegral] at hreal
      cases hreal
    extract_lets accept
    rw [if_neg hintegral, if_neg (by simp [hreal])]
    rfl

theorem wholeOption_of_number (h : v.IsNumber) :
    wholeOption key minimum v =
      (if v.isIntegral then .ok true else (orFault v.toFloat).map isWholeFloat) >>= fun isWhole =>
        if !isWhole then .error (optionRefused key v .whole)
        else orFault v.toWhole >>= atLeast key minimum := by
  unfold wholeOption
  split
  case h_1 b => exact absurd rfl (h.2 b)
  case h_2 =>
    extract_lets accept
    rw [if_pos h.1]
    split
    · rfl
    · cases v.toFloat <;> rfl

theorem wholeOption_of_integral (h : v.IsNumber) (hintegral : v.isIntegral = true)
    (hwhole : v.toWhole = .ok k) : wholeOption key minimum v = atLeast key minimum k := by
  rw [wholeOption_of_number h, if_pos hintegral, hwhole]
  rfl

theorem wholeOption_of_error (h : v.IsNumber) (hintegral : v.isIntegral = false)
    (hfloat : v.toFloat = .error fault) : wholeOption key minimum v = .error (.fault fault) := by
  rw [wholeOption_of_number h, hintegral, hfloat]
  rfl

theorem wholeOption_of_whole (h : v.IsNumber) (hintegral : v.isIntegral = false)
    (hfloat : v.toFloat = .ok x) (hx : isWholeFloat x = true) (hwhole : v.toWhole = .ok k) :
    wholeOption key minimum v = atLeast key minimum k := by
  rw [wholeOption_of_number h, hintegral, hfloat, hwhole]
  change (if !isWholeFloat x then _ else _) = _
  rw [hx]
  rfl

theorem wholeOption_of_broken (h : v.IsNumber) (hintegral : v.isIntegral = false)
    (hfloat : v.toFloat = .ok x) (hx : isWholeFloat x = false) :
    wholeOption key minimum v = .error (optionRefused key v .whole) := by
  rw [wholeOption_of_number h, hintegral, hfloat]
  change (if !isWholeFloat x then _ else _) = _
  rw [hx]
  rfl

/-- A number whose exact value is this whole number, not below the minimum. -/
structure Value.IsCount (v : Value) (minimum k : Nat) : Prop where
  number : v.IsNumber
  exact : v.extended? = some (.finite k)
  minimum_le : minimum ≤ k

/-- The answer for a count: the whole number that the value is, and a refusal that names the option
for all other values. -/
structure TakesCount (key : String) (minimum : Nat) (v : Value) (answer : Except Error Nat) :
    Prop where
  accepted : ∀ k, answer = .ok k ↔ v.IsCount minimum k
  refused : ∀ e, answer = .error e → ∃ w rule, e = .invalidOption key w rule

/-- The values for which another answer is given than the one for a count. -/
inductive MistakenCount (minimum : Nat) : Value → Prop
  /-- There is no double to test for wholeness. -/
  | beyond {r : ℚ} : Format.binary64.limit ≤ |r| → MistakenCount minimum (.ratio r)
  /-- The nearest double is whole, the fraction is not. -/
  | rounded {r : ℚ} {x : Float} : r.den ≠ 1 → IsNearest r x → isWholeFloat x = true →
      minimum ≤ Rat.truncate r → MistakenCount minimum (.ratio r)
  /-- The value is to be refused, but cannot be quoted. -/
  | unquotable {v : Value} : v.isWritable = false → (∀ k, ¬ v.IsCount minimum k) →
      (∀ r x, v = .ratio r → IsNearest r x → isWholeFloat x = false) → MistakenCount minimum v

theorem isCount_iff (h : v.IsNumber) (hk : v.extended? = some (.finite k)) (j : Nat) :
    v.IsCount minimum j ↔ k = j ∧ minimum ≤ j := by
  constructor
  · rintro ⟨-, hj, hmin⟩
    rw [hk] at hj
    exact ⟨by exact_mod_cast Extended.finite.inj (Option.some.inj hj), hmin⟩
  · rintro ⟨rfl, hmin⟩
    exact ⟨h, by rw [hk, Int.cast_natCast], hmin⟩

theorem not_isCount_of_ratio (h : r.den ≠ 1) (k : Nat) : ¬ (Value.ratio r).IsCount minimum k := by
  rintro ⟨-, hexact, -⟩
  rw [Extended.finite.inj (Option.some.inj hexact)] at h
  exact h (Rat.den_natCast k)

theorem takesCount_refused {w : Value} {rule : OptionRule} (hw : w.isWritable = true)
    (h : ∀ k, ¬ v.IsCount minimum k) :
    TakesCount key minimum v (.error (optionRefused key w rule)) where
  accepted k := ⟨nofun, fun hk => absurd hk (h k)⟩
  refused _ := names_of_writable hw

theorem not_takesCount_fault : ¬ TakesCount key minimum v (.error (.fault fault)) := by
  rintro ⟨-, hrefused⟩
  obtain ⟨w, rule, h⟩ := hrefused _ rfl
  cases h

theorem takesCount_atLeast (h : v.IsNumber) (hk : v.extended? = some (.finite k))
    (hshort : k < minimum → Value.isShort k = true) :
    TakesCount key minimum v (atLeast key minimum k) := by
  unfold atLeast
  split
  case isTrue hless =>
    refine takesCount_refused (v := v) (hshort hless) fun j hj => ?_
    obtain ⟨rfl, hmin⟩ := (isCount_iff h hk j).mp hj
    omega
  case isFalse hmin =>
    refine ⟨fun j => ?_, nofun⟩
    rw [isCount_iff h hk, Except.ok.injEq]
    omega

theorem takesCount_broken (hexact : ¬ MistakenCount minimum v)
    (hcount : ∀ k, ¬ v.IsCount minimum k)
    (hratio : ∀ r x, v = .ratio r → IsNearest r x → isWholeFloat x = false) :
    TakesCount key minimum v (.error (optionRefused key v .whole)) := by
  refine takesCount_refused ?_ hcount
  by_contra hlong
  exact hexact (.unquotable (Bool.eq_false_of_not_eq_true hlong) hcount hratio)

theorem takesCount_whole (hexact : ¬ MistakenCount minimum v) (h : v.IsNumber)
    (hintegral : v.isIntegral = true) (hk : v.extended? = some (.finite k))
    (hwritable : v.isWritable = Value.isShort k) :
    TakesCount key minimum v (atLeast key minimum k) := by
  refine takesCount_atLeast h hk fun hless => ?_
  by_contra hlong
  refine hexact (.unquotable (by rw [hwritable]; simpa using hlong) (fun j hj => ?_) ?_)
  · obtain ⟨rfl, hmin⟩ := (isCount_iff h hk j).mp hj
    omega
  · rintro r x rfl
    cases hintegral

theorem takesCount_double (h : v.IsNumber) (hintegral : v.isIntegral = false)
    (hwhole : v.toWhole = wholeOfFloat x) (hfloat : v.toFloat = .ok x)
    (hx : v.extended? = some (.ofFloat x)) (hwritable : v.isWritable = true) :
    TakesCount key minimum v (wholeOption key minimum v) := by
  cases htest : isWholeFloat x with
  | true =>
    obtain ⟨k, hk⟩ := isWholeFloat_iff.mp htest
    have htruncate : v.toWhole = .ok k := by
      rw [hwhole, wholeOfFloat, hk]
      exact congrArg Except.ok (truncate_intCast k)
    rw [wholeOption_of_whole h hintegral hfloat htest htruncate]
    exact takesCount_atLeast h (by rw [hx, hk]) fun _ => isShort_of_lt_limit (abs_lt_limit hk)
  | false =>
    rw [wholeOption_of_broken h hintegral hfloat htest]
    refine takesCount_refused hwritable fun k hk => ?_
    have hwhole := isWholeFloat_iff.mpr ⟨k, Option.some.inj (hx.symm.trans hk.exact)⟩
    rw [htest] at hwhole
    cases hwhole

theorem takesCount_ratio (hexact : ¬ MistakenCount minimum (.ratio r)) :
    TakesCount key minimum (.ratio r) (wholeOption key minimum (.ratio r)) := by
  have hnumber := isNumber_ratio r
  have hlimit : |r| < Format.binary64.limit := by
    by_contra! hge
    exact hexact (.beyond hge)
  cases hfloat : ratFloat r with
  | error fault => exact absurd (ratFloat_eq_error.mp hfloat).1 (not_le.mpr hlimit)
  | ok x =>
    have hnear := isNearest_of_ratFloat hfloat
    cases hx : isWholeFloat x with
    | true =>
      rw [wholeOption_of_whole hnumber rfl hfloat hx rfl]
      by_cases hden : r.den = 1
      · rw [Rat.den_eq_one_iff] at hden
        rw [← hden] at hlimit ⊢
        rw [truncate_intCast]
        exact takesCount_atLeast (isNumber_ratio _) rfl fun _ => isShort_of_lt_limit hlimit
      · -- a broken number that is tested as whole is refused only for being below the minimum
        have hless : Rat.truncate r < minimum := by
          by_contra! hmin
          exact hexact (.rounded hden hnear hx hmin)
        rw [atLeast, if_pos hless]
        exact takesCount_refused (isShort_of_lt_limit ((abs_truncate_le r).trans_lt hlimit))
          (not_isCount_of_ratio hden)
    | false =>
      have hden : r.den ≠ 1 := fun hden => by
        rw [isWholeFloat_of_ratFloat hden hfloat] at hx
        cases hx
      rw [wholeOption_of_broken hnumber rfl hfloat hx]
      refine takesCount_broken hexact (not_isCount_of_ratio hden) fun r' y hr hy => ?_
      cases hr
      rwa [isWholeFloat_congr (hnear.ofFloat_eq hy)] at hx

theorem not_takesCount_rounded (hden : r.den ≠ 1) (hx : IsNearest r x)
    (hwhole : isWholeFloat x = true) (hmin : minimum ≤ Rat.truncate r) :
    ¬ TakesCount key minimum (.ratio r) (wholeOption key minimum (.ratio r)) := by
  have hnumber := isNumber_ratio r
  cases hfloat : ratFloat r with
  | error fault =>
    rw [wholeOption_of_error hnumber rfl hfloat]
    exact not_takesCount_fault
  | ok y =>
    rw [isWholeFloat_congr (hx.ofFloat_eq (isNearest_of_ratFloat hfloat))] at hwhole
    rw [wholeOption_of_whole hnumber rfl hfloat hwhole rfl, atLeast, if_neg (not_lt.mpr hmin)]
    intro htakes
    exact not_isCount_of_ratio hden _ ((htakes.accepted _).mp rfl)

theorem not_takesCount_unquotable (hlong : v.isWritable = false)
    (hcount : ∀ k, ¬ v.IsCount minimum k)
    (hratio : ∀ r x, v = .ratio r → IsNearest r x → isWholeFloat x = false) :
    ¬ TakesCount key minimum v (wholeOption key minimum v) := by
  by_cases h : v.IsNumber
  · cases h.reads with
    | whole k hintegral hwhole hfloat hk hwritable =>
      have hless : k < minimum := by
        by_contra! hmin
        obtain ⟨j, rfl⟩ := Int.eq_ofNat_of_zero_le ((Int.natCast_nonneg minimum).trans hmin)
        exact hcount j ((isCount_iff h hk j).mpr ⟨rfl, Int.ofNat_le.mp hmin⟩)
      rw [hwritable, ← isWritable_int] at hlong
      rw [wholeOption_of_integral h hintegral hwhole, atLeast, if_pos hless,
        optionRefused_of_not_writable hlong]
      exact not_takesCount_fault
    | double x hintegral hwhole hfloat hx hwritable =>
      rw [hlong] at hwritable
      cases hwritable
    | ratio r =>
      cases hfloat : ratFloat r with
      | error fault =>
        rw [wholeOption_of_error h rfl hfloat]
        exact not_takesCount_fault
      | ok x =>
        rw [wholeOption_of_broken h rfl hfloat (hratio r x rfl (isNearest_of_ratFloat hfloat)),
          optionRefused_of_not_writable hlong]
        exact not_takesCount_fault
  · rw [wholeOption_of_not_number h, optionRefused_of_not_writable hlong]
    exact not_takesCount_fault

theorem takesCount_iff :
    TakesCount key minimum v (wholeOption key minimum v) ↔ ¬ MistakenCount minimum v := by
  constructor
  · rintro htakes hmistaken
    cases hmistaken with
    | @beyond r hlimit =>
      have hnumber := isNumber_ratio r
      rw [wholeOption_of_error hnumber rfl (ratFloat_eq_error.mpr ⟨hlimit, rfl⟩)] at htakes
      exact not_takesCount_fault htakes
    | rounded hden hx hwhole hmin => exact not_takesCount_rounded hden hx hwhole hmin htakes
    | unquotable hlong hcount hratio => exact not_takesCount_unquotable hlong hcount hratio htakes
  · intro hexact
    by_cases h : v.IsNumber
    · cases h.reads with
      | whole k hintegral hwhole hfloat hk hwritable =>
        rw [wholeOption_of_integral h hintegral hwhole]
        exact takesCount_whole hexact h hintegral hk hwritable
      | double x hintegral hwhole hfloat hx hwritable =>
        exact takesCount_double h hintegral hwhole hfloat hx hwritable
      | ratio r => exact takesCount_ratio hexact
    · rw [wholeOption_of_not_number h]
      refine takesCount_broken hexact (fun k hk => h hk.number) ?_
      rintro r x rfl
      exact absurd ⟨rfl, nofun⟩ h

end Counts

section Tolerances

variable {key : String} {v : Value} {p : Extended} {x : Float} {r : ℚ} {fault : Fault}

theorem realOption_of_not_number (h : ¬ v.IsNumber) :
    realOption key v = .error (optionRefused key v .real) := by
  unfold realOption
  split
  case h_1 b => rfl
  case h_2 hbool => rw [if_pos (by simp [Value.isReal_of_not_isNumber h hbool])]

theorem realOption_of_number (h : v.IsNumber) :
    realOption key v = orFault v.toFloat >>= fun x =>
      if 0.0 ≤ x then .ok x else .error (optionRefused key (.float x) (.atLeastReal 0.0)) := by
  unfold realOption
  split
  case h_1 b => exact absurd rfl (h.2 b)
  case h_2 => rw [if_neg (by simp [h.1])]

/-- The answer for a tolerance: the nearest double of a number that is not below zero, and a refusal
that names the option for all values that are not taken. -/
structure TakesTolerance (key : String) (v : Value) (answer : Except Error Float) : Prop where
  accepted : ∀ x, answer = .ok x →
    v.IsNumber ∧ ∃ p, v.extended? = some p ∧ p.Nonneg ∧ p.NearestTo x
  refused : ∀ e, answer = .error e → ∃ w rule, e = .invalidOption key w rule

inductive MistakenTolerance : Value → Prop
  /-- There is no double to compare with zero. -/
  | beyond {v : Value} {r : ℚ} : v.IsNumber → v.extended? = some (.finite r) →
      Format.binary64.limit ≤ |r| → MistakenTolerance v
  /-- The nearest double is a zero, the number is below it. -/
  | vanishing {v : Value} {r : ℚ} : v.IsNumber → v.extended? = some (.finite r) →
      -dyadic 1 (-1075) ≤ r → r < 0 → MistakenTolerance v
  /-- The value is to be refused, but cannot be quoted. -/
  | unquotable {v : Value} : ¬ v.IsNumber → v.isWritable = false → MistakenTolerance v

theorem takesTolerance_refused {w : Value} {rule : OptionRule} (hw : w.isWritable = true) :
    TakesTolerance key v (.error (optionRefused key w rule)) where
  accepted := nofun
  refused _ := names_of_writable hw

theorem not_takesTolerance_fault : ¬ TakesTolerance key v (.error (.fault fault)) := by
  rintro ⟨-, hrefused⟩
  obtain ⟨w, rule, h⟩ := hrefused _ rfl
  cases h

theorem mistakenTolerance_of_not_number (h : ¬ v.IsNumber) :
    MistakenTolerance v ↔ v.isWritable = false := by
  refine ⟨fun hmistaken => ?_, .unquotable h⟩
  cases hmistaken with
  | beyond hnumber => exact absurd hnumber h
  | vanishing hnumber => exact absurd hnumber h
  | unquotable _ hlong => exact hlong

theorem mistakenTolerance_of_ok (h : v.IsNumber) (hx : v.toFloat = .ok x)
    (hp : v.extended? = some p) :
    MistakenTolerance v ↔ ∃ r, p = .finite r ∧ -dyadic 1 (-1075) ≤ r ∧ r < 0 := by
  constructor
  · intro hmistaken
    cases hmistaken with
    | beyond _ hr hlimit =>
      have hfault := h.toFloat_eq_error.mpr ⟨⟨_, hr, hlimit⟩, rfl⟩
      cases hx.symm.trans hfault
    | vanishing _ hr hge hneg => exact ⟨_, Option.some.inj (hp.symm.trans hr), hge, hneg⟩
    | unquotable hnumber => exact absurd h hnumber
  · rintro ⟨r, rfl, hge, hneg⟩
    exact .vanishing h hp hge hneg

theorem takesTolerance_of_ok (h : v.IsNumber) (hx : v.toFloat = .ok x) :
    TakesTolerance key v (realOption key v) ↔ ¬ MistakenTolerance v := by
  obtain ⟨p, hp, hnear⟩ := h.nearestTo hx
  rw [mistakenTolerance_of_ok h hx hp, realOption_of_number h, hx]
  change TakesTolerance key v (if 0.0 ≤ x then _ else _) ↔ _
  split
  case isTrue hzero =>
    have hcases := hnear.zero_le_iff.mp hzero
    constructor
    · rintro htakes ⟨r, rfl, -, hneg⟩
      obtain ⟨-, p, hp', hnonneg, -⟩ := htakes.accepted x rfl
      obtain rfl := Option.some.inj (hp.symm.trans hp')
      exact absurd hnonneg (not_le.mpr hneg)
    · intro hexact
      refine ⟨fun y hy => ?_, nofun⟩
      obtain rfl := Except.ok.inj hy
      exact ⟨h, p, hp, hcases.resolve_right hexact, hnear⟩
  case isFalse hzero =>
    refine iff_of_true (takesTolerance_refused rfl) fun hmistaken => hzero ?_
    exact hnear.zero_le_iff.mpr (.inr hmistaken)

theorem takesTolerance_iff : TakesTolerance key v (realOption key v) ↔ ¬ MistakenTolerance v := by
  by_cases h : v.IsNumber
  · cases hx : v.toFloat with
    | ok x => exact takesTolerance_of_ok h hx
    | error fault =>
      obtain ⟨⟨r, hr, hlimit⟩, -⟩ := h.toFloat_eq_error.mp hx
      rw [realOption_of_number h, hx]
      exact iff_of_false not_takesTolerance_fault (not_not.mpr (.beyond h hr hlimit))
  · rw [realOption_of_not_number h, mistakenTolerance_of_not_number h, Bool.not_eq_false]
    cases hwritable : v.isWritable with
    | true => exact iff_of_true (takesTolerance_refused hwritable) rfl
    | false =>
      rw [optionRefused_of_not_writable hwritable]
      exact iff_of_false not_takesTolerance_fault Bool.false_ne_true

end Tolerances

section Resolved

variable {n : Value} {opts : Option Value} {k : OptionKey} {v : Value} {s : Sparse} {e : Error}

theorem map_bind_unit {α β : Type} {x : Except Error α} {f : α → Except Error β}
    {rest : Except Error Unit} (h : ∀ a, (f a).map (fun _ => ()) = rest) :
    (x >>= f).map (fun _ => ()) = x.map (fun _ => ()) >>= fun _ => rest := by
  cases x with
  | error e => rfl
  | ok a => exact h a

def checkAll (s : Sparse) : List OptionKey → Except Error Unit
  | [] => .ok ()
  | k :: ks => k.check (s.field k.name) >>= fun _ => checkAll s ks

theorem checkAll_eq (s : Sparse) :
    (checkValues s).map (fun _ => ()) = checkAll s OptionKey.all := by
  unfold checkValues
  refine map_bind_unit fun m => ?_
  refine map_bind_unit fun factr => ?_
  refine map_bind_unit fun pgtol => ?_
  refine map_bind_unit fun maxIts => ?_
  refine map_bind_unit fun maxTotalIts => ?_
  refine map_bind_unit fun printEvery => ?_
  refine map_bind_unit fun errFcn => ?_
  exact map_bind_unit fun outputFcn => rfl

theorem checkAll_of_others {ks : List OptionKey} (hk : k ∈ ks)
    (h : ∀ j, j ≠ k → j.check (s.field j.name) = .ok ()) :
    checkAll s ks = k.check (s.field k.name) := by
  cases hcheck : k.check (s.field k.name) with
  | ok =>
    have hall (j : OptionKey) : j.check (s.field j.name) = .ok () := by
      by_cases hj : j = k
      · rw [hj, hcheck]
      · exact h j hj
    -- every check passes, wherever this one stands
    clear hk
    induction ks with
    | nil => rfl
    | cons j ks ih => rw [checkAll, bind_of_ok (hall j), ih]
  | error e =>
    induction ks with
    | nil => cases hk
    | cons j ks ih =>
      rw [checkAll]
      by_cases hj : j = k
      · rw [hj, hcheck]
        rfl
      · rw [bind_of_ok (h j hj), ih ((List.mem_cons.mp hk).resolve_left (Ne.symm hj))]

/-- Options for `n` variables with this value for one of them, the others being right. -/
def OthersRight (n : Value) (opts : Option Value) (k : OptionKey) (v : Value) : Prop :=
  ∃ s x0, Sparse.ofValue (opts.getD .nothing) = .ok s ∧ checkKeys s = .ok () ∧
    startingPoint n s = .ok x0 ∧ s.field k.name = v ∧
    ∀ j, j ≠ k → j.check (s.field j.name) = .ok ()

theorem othersRight_single {x0 : Value} (hn : zeros n = .ok x0) (k : OptionKey) (v : Value) :
    OthersRight n (some (.mapping [(.text k.name, v)])) k v := by
  have hfield (j : OptionKey) := field_keyed [(k.name, v)] j
  have hkeys : checkKeys ⟨keyed [(k.name, v)]⟩ = .ok () := by cases k <;> rfl
  have hx0 : startingPoint n ⟨keyed [(k.name, v)]⟩ = .ok x0 := by
    have hnone : [(k.name, v)].lookup "x0" = none := by cases k <;> rfl
    rw [startingPoint, get?_keyed, hnone, hn]
    rfl
  refine ⟨⟨keyed [(k.name, v)]⟩, x0, rfl, hkeys, hx0, ?_, fun j hj => ?_⟩
  · rw [hfield k, List.lookup_cons_self]
    rfl
  · rw [hfield j]
    have hne : [(k.name, v)].lookup j.name = none := by
      cases j <;> cases k <;> first | rfl | exact absurd rfl hj
    rw [hne]
    exact j.check_default

theorem OthersRight.resolveOptions_map {α : Type} (h : OthersRight n opts k v)
    {read : Value → Except Error α} {field : Options → α}
    (hread : k.check v = (read v).map fun _ => ())
    (hfield : ∀ s o, checkValues s = .ok o → read (s.field k.name) = .ok (field o)) :
    (resolveOptions n opts).map (fun answer => field answer.1) = read v := by
  obtain ⟨s, x0, hs, hkeys, hx0, rfl, hothers⟩ := h
  have hchecks :=
    (checkAll_eq s).trans (checkAll_of_others (k := k) (by cases k <;> decide) hothers)
  have hresolve : resolveOptions n opts = (checkValues s).map fun o => (o, x0) := by
    unfold resolveOptions
    rw [hs, orFault_ok, bind_of_ok rfl, bind_of_ok hkeys, bind_of_ok hx0]
    cases checkValues s <;> rfl
  rw [hresolve]
  cases hvalues : checkValues s with
  | ok o => rw [hfield s o hvalues]; rfl
  | error e =>
    rw [hvalues, hread] at hchecks
    rw [map_eq_error.mp hchecks.symm]
    rfl

inductive CountOption where
  | m
  | maxIts
  | maxTotalIts
  | printEvery
  deriving DecidableEq, Repr

namespace CountOption

def key : CountOption → OptionKey
  | .m => .m
  | .maxIts => .maxIts
  | .maxTotalIts => .maxTotalIts
  | .printEvery => .printEvery

def minimum : CountOption → Nat
  | .m | .printEvery => 0
  | .maxIts | .maxTotalIts => 1

def field : CountOption → Options → Nat
  | .m => Options.m
  | .maxIts => Options.maxIts
  | .maxTotalIts => Options.maxTotalIts
  | .printEvery => Options.printEvery

theorem check_eq (c : CountOption) (v : Value) :
    c.key.check v = (wholeOption c.key.name c.minimum v).map fun _ => () := by
  cases c <;> rfl

theorem read_of_checkValues {c : CountOption} {o : Options} (h : checkValues s = .ok o) :
    wholeOption c.key.name c.minimum (s.field c.key.name) = .ok (c.field o) := by
  obtain ⟨hm, -, -, hmaxIts, hmaxTotalIts, hprintEvery, -⟩ := checkValues_ok h
  cases c
  · exact hm
  · exact hmaxIts
  · exact hmaxTotalIts
  · exact hprintEvery

end CountOption

inductive ToleranceOption where
  | factr
  | pgtol
  deriving DecidableEq, Repr

namespace ToleranceOption

def key : ToleranceOption → OptionKey
  | .factr => .factr
  | .pgtol => .pgtol

def field : ToleranceOption → Options → Float
  | .factr => Options.factr
  | .pgtol => Options.pgtol

theorem check_eq (c : ToleranceOption) (v : Value) :
    c.key.check v = (realOption c.key.name v).map fun _ => () := by
  cases c <;> rfl

theorem read_of_checkValues {c : ToleranceOption} {o : Options} (h : checkValues s = .ok o) :
    realOption c.key.name (s.field c.key.name) = .ok (c.field o) := by
  obtain ⟨-, hfactr, hpgtol, -⟩ := checkValues_ok h
  cases c
  · exact hfactr
  · exact hpgtol

end ToleranceOption

theorem OthersRight.count_eq {c : CountOption} (h : OthersRight n opts c.key v) :
    (resolveOptions n opts).map (fun answer => c.field answer.1) =
      wholeOption c.key.name c.minimum v :=
  h.resolveOptions_map (c.check_eq v) fun _ _ => CountOption.read_of_checkValues

theorem OthersRight.tolerance_eq {c : ToleranceOption} (h : OthersRight n opts c.key v) :
    (resolveOptions n opts).map (fun answer => c.field answer.1) = realOption c.key.name v :=
  h.resolveOptions_map (c.check_eq v) fun _ _ => ToleranceOption.read_of_checkValues

/-- A count is taken exactly unless its value is one of the mistaken ones. -/
theorem count_taken_iff {c : CountOption} (h : OthersRight n opts c.key v) :
    TakesCount c.key.name c.minimum v
        ((resolveOptions n opts).map fun answer => c.field answer.1) ↔
      ¬ MistakenCount c.minimum v := by
  rw [h.count_eq]
  exact takesCount_iff

theorem zeros_one : ∃ x0, zeros (.int 1) = .ok x0 := ⟨_, rfl⟩

theorem count_taken_five_thousand :
    OthersRight (.int 1) (some (.mapping [(.text "maxTotalIts", .float 5000.0)]))
        CountOption.maxTotalIts.key (.float 5000.0) ∧
      TakesCount "maxTotalIts" 1 (.float 5000.0)
        ((resolveOptions (.int 1) (some (.mapping [(.text "maxTotalIts", .float 5000.0)]))).map
          fun answer => answer.1.maxTotalIts) := by
  obtain ⟨x0, hx0⟩ := zeros_one
  have h := othersRight_single hx0 CountOption.maxTotalIts.key (.float 5000.0)
  refine ⟨h, (count_taken_iff h).mpr fun hmistaken => ?_⟩
  cases hmistaken with
  | unquotable hlong => cases hlong

def almostFive : ℚ := 499999999999999999999 / 100000000000000000000

/-- Just below five the nearest double is five, and what is taken is the whole part, four. -/
theorem fraction_taken_as_four :
    ((resolveOptions (.int 1) (some (.mapping [(.text "maxIts", .ratio almostFive)]))).map
        fun answer => answer.1.maxIts) = .ok 4 ∧
      ¬ TakesCount "maxIts" 1 (.ratio almostFive)
        ((resolveOptions (.int 1) (some (.mapping [(.text "maxIts", .ratio almostFive)]))).map
          fun answer => answer.1.maxIts) := by
  obtain ⟨x0, hx0⟩ := zeros_one
  have hden : almostFive.den ≠ 1 := by decide +kernel
  have hwhole : (Value.ratio almostFive).toWhole = .ok 4 :=
    congrArg Except.ok (show Rat.truncate almostFive = 4 by decide +kernel)
  have hround : (ratFloat almostFive).toOption.map isWholeFloat = some true := by decide +kernel
  obtain ⟨x, hx, htest⟩ := exists_of_map_toOption hround
  have hread : wholeOption "maxIts" 1 (.ratio almostFive) = .ok 4 :=
    wholeOption_of_whole (isNumber_ratio _) rfl hx htest hwhole
  have h := othersRight_single hx0 CountOption.maxIts.key (.ratio almostFive)
  have hanswer :
      ((resolveOptions (.int 1) (some (.mapping [(.text "maxIts", .ratio almostFive)]))).map
        fun answer => answer.1.maxIts) = .ok 4 :=
    (OthersRight.count_eq (c := .maxIts) h).trans hread
  refine ⟨hanswer, fun htakes => ?_⟩
  exact not_isCount_of_ratio hden 4 ((htakes.accepted 4).mp hanswer)

/-- A tolerance is taken exactly unless its value is one of the mistaken ones. -/
theorem tolerance_taken_iff {c : ToleranceOption} (h : OthersRight n opts c.key v) :
    TakesTolerance c.key.name v ((resolveOptions n opts).map fun answer => c.field answer.1) ↔
      ¬ MistakenTolerance v := by
  rw [h.tolerance_eq]
  exact takesTolerance_iff

theorem tolerance_taken_ten :
    OthersRight (.int 1) (some (.mapping [(.text "factr", .int 10)])) ToleranceOption.factr.key
        (.int 10) ∧
      TakesTolerance "factr" (.int 10)
        ((resolveOptions (.int 1) (some (.mapping [(.text "factr", .int 10)]))).map
          fun answer => answer.1.factr) := by
  obtain ⟨x0, hx0⟩ := zeros_one
  have h := othersRight_single hx0 ToleranceOption.factr.key (.int 10)
  refine ⟨h, (tolerance_taken_iff h).mpr fun hmistaken => ?_⟩
  cases hmistaken with
  | beyond _ hr hlimit =>
    obtain rfl := Extended.finite.inj (Option.some.inj hr)
    have hten : Extended.ofFloat 10.0 = .finite ((10 : Int) : ℚ) := by decide +kernel
    exact absurd (abs_lt_limit hten) (not_lt.mpr hlimit)
  | vanishing _ hr _ hneg =>
    obtain rfl := Extended.finite.inj (Option.some.inj hr)
    norm_num at hneg
  | unquotable hnumber => exact hnumber ⟨rfl, nofun⟩

/-- A whole number far below zero overflows before it is compared with zero. -/
theorem negative_tolerance_overflows :
    ((resolveOptions (.int 1) (some (.mapping [(.text "factr", .int (-10 ^ 400))]))).map
        fun answer => answer.1.factr) = .error (.fault .overflow) ∧
      ¬ TakesTolerance "factr" (.int (-10 ^ 400))
        ((resolveOptions (.int 1) (some (.mapping [(.text "factr", .int (-10 ^ 400))]))).map
          fun answer => answer.1.factr) := by
  obtain ⟨x0, hx0⟩ := zeros_one
  have hlimit : Format.binary64.limit ≤ |((-10 ^ 400 : Int) : ℚ)| := by
    calc Format.binary64.limit ≤ ((2 : ℚ) ^ 128) ^ 8 := by
          rw [← pow_mul, ← zpow_natCast]
          exact Format.binary64.limit_lt.le
      _ ≤ (10 ^ 50) ^ 8 := pow_le_pow_left₀ (by positivity) (by norm_num) 8
      _ = |((-10 ^ 400 : Int) : ℚ)| := by
          rw [Int.cast_neg, abs_neg, Int.cast_pow, abs_pow, ← pow_mul]
          norm_num
  have hnumber : (Value.int (-10 ^ 400)).IsNumber := ⟨rfl, nofun⟩
  have hfloat := hnumber.toFloat_eq_error.mpr ⟨⟨_, rfl, hlimit⟩, rfl⟩
  have hread : realOption "factr" (.int (-10 ^ 400)) = .error (.fault .overflow) := by
    rw [realOption_of_number hnumber, hfloat]
    rfl
  have h := othersRight_single hx0 ToleranceOption.factr.key (.int (-10 ^ 400))
  have hanswer :
      ((resolveOptions (.int 1) (some (.mapping [(.text "factr", .int (-10 ^ 400))]))).map
        fun answer => answer.1.factr) = .error (.fault .overflow) :=
    (OthersRight.tolerance_eq (c := .factr) h).trans hread
  refine ⟨hanswer, ?_⟩
  rw [hanswer]
  exact not_takesTolerance_fault

end Resolved

end BoxMin
