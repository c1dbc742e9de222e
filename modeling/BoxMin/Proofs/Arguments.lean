import BoxMin.Proofs.Bounds
import BoxMin.Proofs.Extent
import BoxMin.Proofs.Options
import BoxMin.Proofs.Run.Journal

/-!
Which rule refuses malformed arguments. What breaks a rule is said of the arguments alone; the rules
are in one order, the first that is broken decides, and then nothing has been called.
-/

set_option autoImplicit false

namespace BoxMin

section Rules

variable {ρ : Type}

/-- The first of these rules that is broken gives `e`. -/
inductive FirstBroken (broken : ρ → Error → Prop) : List ρ → Error → Prop where
  | here {rule : ρ} {rules : List ρ} {e : Error} (h : broken rule e) :
      FirstBroken broken (rule :: rules) e
  | later {rule : ρ} {rules : List ρ} {e : Error} (hkept : ∀ e', ¬ broken rule e')
      (h : FirstBroken broken rules e) : FirstBroken broken (rule :: rules) e

/-- A check fails exactly as the first of these rules that is broken says. -/
def Settles (broken : ρ → Error → Prop) (rules : List ρ) {α : Type} (x : Except Error α) : Prop :=
  ∀ e, x = .error e ↔ FirstBroken broken rules e

variable {broken : ρ → Error → Prop} {rule : ρ} {rules rules' : List ρ} {e : Error} {α β : Type}
  {x : Except Error α} {f : α → Except Error β}

theorem FirstBroken.append (h : FirstBroken broken rules e) :
    FirstBroken broken (rules ++ rules') e := by
  induction h with
  | here h => exact .here h
  | later hkept _ ih => exact .later hkept ih

theorem firstBroken_append_of_kept (hkept : ∀ e, ¬ FirstBroken broken rules e) :
    FirstBroken broken (rules ++ rules') e ↔ FirstBroken broken rules' e := by
  induction rules with
  | nil => rfl
  | cons rule rules ih =>
    have hrule : ∀ e', ¬ broken rule e' := fun e' h => hkept e' (.here h)
    have hrules : ∀ e', ¬ FirstBroken broken rules e' := fun e' h => hkept e' (.later hrule h)
    rw [← ih hrules]
    constructor
    · intro h
      cases h with
      | here h => exact absurd h (hrule e)
      | later _ h => exact h
    · exact .later hrule

theorem Settles.unique (hx : Settles broken rules x) {e e' : Error}
    (h : FirstBroken broken rules e) (h' : FirstBroken broken rules e') : e = e' := by
  have he := (hx e).mpr h
  rw [(hx e').mpr h'] at he
  exact (Except.error.inj he).symm

theorem FirstBroken.of_append (h : FirstBroken broken rules e) {e' : Error}
    (h' : FirstBroken broken (rules ++ rules') e') : FirstBroken broken rules e' := by
  induction h with
  | here h =>
    cases h' with
    | here h' => exact .here h'
    | later hkept _ => exact absurd h (hkept _)
  | later hkept _ ih =>
    cases h' with
    | here h' => exact .here h'
    | later _ h' => exact .later hkept (ih h')

theorem settles_ok (a : α) : Settles broken [] (.ok a : Except Error α) := fun _ =>
  ⟨nofun, nofun⟩

theorem settles_rule (h : ∀ e, x = .error e ↔ broken rule e) : Settles broken [rule] x := by
  intro e
  rw [h]
  constructor
  · exact .here
  · intro hfirst
    cases hfirst with
    | here hbroken => exact hbroken
    | later _ hnone => cases hnone

theorem settles_ite {p : Prop} [Decidable p] {a : α} {e₀ : Error}
    (h : ∀ e, broken rule e ↔ ¬ p ∧ e = e₀) :
    Settles broken [rule] (if p then .ok a else .error e₀ : Except Error α) :=
  settles_rule fun e => by
    rw [h]
    split <;> simp [*, eq_comm]

theorem Settles.kept (hx : Settles broken rules x) {a : α} (hok : x = .ok a) (e : Error) :
    ¬ FirstBroken broken rules e := by
  intro h
  have herror := (hx e).mpr h
  rw [hok] at herror
  cases herror

theorem Settles.bind (hx : Settles broken rules x)
    (hf : ∀ a, x = .ok a → Settles broken rules' (f a)) :
    Settles broken (rules ++ rules') (x >>= f) := by
  intro e
  cases hcheck : x with
  | error e₀ =>
    have hfirst : FirstBroken broken rules e₀ := (hx e₀).mp hcheck
    constructor
    · intro h
      cases h
      exact hfirst.append
    · intro h
      rw [hx.unique (hfirst.of_append h) hfirst]
      rfl
  | ok a =>
    rw [firstBroken_append_of_kept (hx.kept hcheck)]
    exact hf a hcheck e

end Rules

section Columns

inductive NoColumn (name : String) (v : Value) : Error → Prop where
  | unread {fault : Fault} (h : v.toDoubles = .error fault) : NoColumn name v (.fault fault)
  | shape {g : Grid Float} (h : v.toDoubles = .ok g) (hflat : ∀ k, g.shape ≠ [k])
      (hcolumn : ∀ k, g.shape ≠ [k, 1]) : NoColumn name v (.notColumn name g.shape)

theorem columnVector_eq_error {name : String} {v : Value} {e : Error} :
    columnVector name v = .error e ↔ NoColumn name v e := by
  unfold columnVector
  cases hg : v.toDoubles with
  | error fault =>
    constructor
    · intro h
      cases h
      exact .unread hg
    · intro h
      cases h with
      | unread h =>
        rw [hg] at h
        cases h
        rfl
      | shape h => simp [hg] at h
  | ok g =>
    show g.column name = .error e ↔ _
    unfold Grid.column
    constructor
    · intro h
      split at h
      · cases h
      · cases h
      · rename_i hflat hcolumn
        cases h
        exact .shape hg hflat hcolumn
    · intro h
      cases h with
      | unread h => simp [hg] at h
      | shape h hflat hcolumn =>
        rw [hg] at h
        cases h
        split
        · rename_i k hshape
          exact absurd hshape (hflat k)
        · rename_i k hshape
          exact absurd hshape (hcolumn k)
        · rfl

theorem room_of_columnVector {name : String} {v : Value} {xs : List Float}
    (h : columnVector name v = .ok xs) :
    ∃ shape, checkExtent [(xs.length : Int)] ElementType.float64.bytes = .ok shape := by
  obtain ⟨g, hg, hcolumn⟩ := exists_of_bind_ok h
  obtain ⟨g', -, hroom⟩ := exists_of_bind_ok (orFault_eq_ok.mp hg)
  obtain ⟨shape, hshape, hg'⟩ := exists_of_bind_ok hroom
  obtain rfl : g' = g := Except.ok.inj hg'
  have hxs : xs = g'.items := by
    unfold Grid.column at hcolumn
    split at hcolumn <;> cases hcolumn <;> rfl
  exact ⟨shape, hxs ▸ hshape⟩

theorem shape_of_room {n : Nat} {shape : List Nat}
    (h : checkExtent [(n : Int)] ElementType.float64.bytes = .ok shape) :
    shape = [n] ∧ IntType.int64.holds n = true := by
  obtain ⟨rfl, hroom⟩ := checkExtent_eq_ok h
  have hbytes : takenBytes [n] ElementType.float64.bytes = n * 8 := takenBytes_cons n [] 8
  have hmemory : memoryLimit = 68719476736 := rfl
  have hbeyond : IntType.int64.beyond = 9223372036854775808 := rfl
  have hleast := IntType.int64.least_le_zero
  have hfits : n * 8 ≤ memoryLimit := hbytes ▸ hroom
  refine ⟨by simp, decide_eq_true ⟨?_, ?_⟩⟩ <;> omega

theorem zeros_eq {n : Nat} {shape : List Nat}
    (h : checkExtent [(n : Int)] ElementType.float64.bytes = .ok shape) :
    zeros (.int n) = .ok (.ofFloats (List.replicate n 0.0)) := by
  obtain ⟨rfl, hholds⟩ := shape_of_room h
  have hlengths : (Value.int n).toLengths = .ok [(n : Int)] := by
    show (Value.int n).toLength.map ([·]) = _
    rw [Value.toLength_int, if_pos hholds]
    rfl
  have hshape : (Value.int n).toShape = .ok [n] := (bind_of_ok hlengths).trans h
  have hfilled : Grid.filled [n] (Scalar.double 0.0) =
      .axis ((List.replicate n 0.0).map .double) := by
    simp [Grid.filled, Grid.axis, volume_axis]
  rw [zeros, bind_of_ok hshape, hfilled]
  rfl

theorem columnVector_zeros (name : String) {n : Nat} {shape : List Nat}
    (h : checkExtent [(n : Int)] ElementType.float64.bytes = .ok shape) :
    columnVector name (.ofFloats (List.replicate n 0.0)) = .ok (List.replicate n 0.0) := by
  have hgrid := Value.toGrid_ofFloats (List.replicate n 0.0)
  have hdoubles : (Value.ofFloats (List.replicate n 0.0)).toDoubles =
      .ok (.axis (List.replicate n 0.0)) := by
    rw [Value.toDoubles, bind_of_ok hgrid]
    simp only [Grid.axis, List.length_replicate]
    rw [bind_of_ok h]
  rw [columnVector, hdoubles]
  rfl

end Columns

structure Arguments where
  fcn : Value
  lower : Value
  upper : Value
  options : List (String × Value) := []

inductive Rule where
  | evaluator
  | lower
  | upper
  | boundLengths
  | keys
  | option (k : OptionKey)
  | start
  | startLength
  | crossed

def Rule.order : List Rule :=
  .evaluator :: .lower :: .upper :: .boundLengths :: .keys ::
    (OptionKey.all.map .option ++ [.start, .startLength, .crossed])

inductive NoEvaluator (v : Value) : Error → Prop where
  | pair {vs : List Value} (h : v = .list vs ∨ v = .tuple vs)
      (hvs : ∀ f g, vs ≠ [.callable f, .callable g]) : NoEvaluator v .notCallablePair
  | kind (hf : ∀ f, v ≠ .callable f) (hlist : ∀ vs, v ≠ .list vs) (htuple : ∀ vs, v ≠ .tuple vs) :
      NoEvaluator v (.notEvaluator v.kindName)

theorem Value.isCallable_iff {v : Value} : v.isCallable = true ↔ ∃ f, v = .callable f := by
  cases v <;> simp [isCallable]

theorem Evaluator.ofValue_sequence {v : Value} {vs : List Value}
    (h : v = .list vs ∨ v = .tuple vs) :
    (∃ f g, vs = [.callable f, .callable g] ∧ ofValue v = .ok (.pair (.callable f) (.callable g))) ∨
      (∀ f g, vs ≠ [.callable f, .callable g]) ∧ ofValue v = .error .notCallablePair := by
  have hlist : ofValue v = ofValue (.list vs) := by
    obtain rfl | rfl := h <;> rfl
  rw [hlist]
  unfold ofValue
  dsimp only
  split
  · rename_i f g
    split
    · rename_i hcallable
      rw [Bool.and_eq_true, Value.isCallable_iff, Value.isCallable_iff] at hcallable
      obtain ⟨⟨f, rfl⟩, g, rfl⟩ := hcallable
      exact .inl ⟨f, g, rfl, rfl⟩
    · rename_i hcallable
      refine .inr ⟨fun f' g' hvs => ?_, rfl⟩
      cases hvs
      exact hcallable rfl
  · rename_i hvs
    exact .inr ⟨fun f g => hvs _ _, rfl⟩

theorem Evaluator.ofValue_eq_error {v : Value} {e : Error} :
    ofValue v = .error e ↔ NoEvaluator v e := by
  constructor
  · intro h
    by_cases hsequence : ∃ vs, v = .list vs ∨ v = .tuple vs
    · obtain ⟨vs, hvs⟩ := hsequence
      obtain ⟨f, g, -, hok⟩ | ⟨hno, herror⟩ := ofValue_sequence hvs
      · rw [hok] at h
        cases h
      · rw [herror] at h
        cases h
        exact .pair hvs hno
    · simp only [not_exists, not_or] at hsequence
      unfold ofValue at h
      split at h
      · exact absurd rfl (hsequence _).1
      · exact absurd rfl (hsequence _).2
      · cases h
      · rename_i hlist htuple hcallable
        cases h
        exact .kind hcallable hlist htuple
  · intro h
    cases h with
    | pair hvs hno =>
      obtain ⟨f, g, rfl, -⟩ | ⟨-, herror⟩ := ofValue_sequence hvs
      · exact absurd rfl (hno f g)
      · exact herror
    | kind hf hlist htuple =>
      unfold ofValue
      split
      · exact absurd rfl (hlist _)
      · exact absurd rfl (htuple _)
      · exact absurd rfl (hf _)
      · rfl

namespace Arguments

def value (A : Arguments) (k : OptionKey) : Value := (A.options.lookup k.name).getD k.default

def start (A : Arguments) : Option Value :=
  match A.options.lookup "x0" with
  | none | some .nothing => none
  | some v => some v

/-- The arguments break a rule, and this is what they are refused with for it. -/
inductive Broken (A : Arguments) : Rule → Error → Prop where
  | evaluator {e : Error} (h : NoEvaluator A.fcn e) : Broken A .evaluator e
  | lower {e : Error} (h : NoColumn "l" A.lower e) : Broken A .lower e
  | upper {e : Error} (h : NoColumn "u" A.upper e) : Broken A .upper e
  | boundLengths {lo hi : List Float} (hlo : columnVector "l" A.lower = .ok lo)
      (hhi : columnVector "u" A.upper = .ok hi) (h : lo.length ≠ hi.length) :
      Broken A .boundLengths (.boundLengths lo.length hi.length)
  | keys {keys : List String} (hkeys : UnknownKeys A.options keys) (h : keys ≠ []) :
      Broken A .keys (.unrecognizedOptions keys)
  | option {k : OptionKey} {e : Error} (h : k.check (A.value k) = .error e) :
      Broken A (.option k) e
  | start {v : Value} {e : Error} (hv : A.start = some v) (h : NoColumn "x0" v e) :
      Broken A .start e
  | startLength {v : Value} {x lo : List Float} (hv : A.start = some v)
      (hx : columnVector "x0" v = .ok x) (hlo : columnVector "l" A.lower = .ok lo)
      (h : x.length ≠ lo.length) : Broken A .startLength (.startLength x.length lo.length)
  /-- At these places, and no others, a finite lower bound is above a finite upper one. -/
  | crossed {lo hi : List Float} {places : List Nat} (hlo : columnVector "l" A.lower = .ok lo)
      (hhi : columnVector "u" A.upper = .ok hi) (hsorted : places.Pairwise (· < ·))
      (hmem : ∀ i, i ∈ places ↔ ∃ l u : Float, lo[i]? = some l ∧ hi[i]? = some u ∧
        l.isFinite = true ∧ u.isFinite = true ∧ u < l)
      (h : places ≠ []) : Broken A .crossed (.crossedBounds places)

inductive Spelled (A : Arguments) : Option Value → Prop where
  | absent (h : A.options = []) : Spelled A none
  | nothing (h : A.options = []) : Spelled A (some .nothing)
  | mapping (h : (A.options.map Prod.fst).Nodup) : Spelled A (some (.mapping (keyed A.options)))

variable {A : Arguments} {opts : Option Value} {e : Error}

theorem Spelled.sparse (h : A.Spelled opts) :
    Sparse.ofValue (opts.getD .nothing) = .ok ⟨keyed A.options⟩ := by
  cases h with
  | absent h | nothing h =>
    rw [h]
    rfl
  | mapping h =>
    cases A.options with
    | nil => rfl
    | cons entry rest => rfl

theorem Spelled.nodup (h : A.Spelled opts) : (A.options.map Prod.fst).Nodup := by
  cases h with
  | absent h | nothing h => simp [h]
  | mapping h => exact h

theorem broken_boundLengths {lo hi : List Float} (hlo : columnVector "l" A.lower = .ok lo)
    (hhi : columnVector "u" A.upper = .ok hi) (e : Error) :
    A.Broken .boundLengths e ↔
      ¬ lo.length = hi.length ∧ e = .boundLengths lo.length hi.length := by
  constructor
  · intro h
    cases h with
    | boundLengths hlo' hhi' h =>
      rw [hlo] at hlo'
      rw [hhi] at hhi'
      cases hlo'
      cases hhi'
      exact ⟨h, rfl⟩
  · rintro ⟨h, rfl⟩
    exact .boundLengths hlo hhi h

theorem broken_startLength {v : Value} {x lo : List Float} (hv : A.start = some v)
    (hx : columnVector "x0" v = .ok x) (hlo : columnVector "l" A.lower = .ok lo) (e : Error) :
    A.Broken .startLength e ↔ ¬ x.length = lo.length ∧ e = .startLength x.length lo.length := by
  constructor
  · intro h
    cases h with
    | startLength hv' hx' hlo' h =>
      rw [hv] at hv'
      cases hv'
      rw [hx] at hx'
      rw [hlo] at hlo'
      cases hx'
      cases hlo'
      exact ⟨h, rfl⟩
  · rintro ⟨h, rfl⟩
    exact .startLength hv hx hlo h

theorem evaluator_settles : Settles A.Broken [.evaluator] (Evaluator.ofValue A.fcn) :=
  settles_rule fun _ => Evaluator.ofValue_eq_error.trans
    ⟨.evaluator, fun h => by cases h; assumption⟩

theorem boundVectors_settles :
    Settles A.Broken [.lower, .upper, .boundLengths] (boundVectors A.lower A.upper) := by
  have hlower : Settles A.Broken [.lower] (columnVector "l" A.lower) := settles_rule fun e =>
    columnVector_eq_error.trans ⟨.lower, fun h => by cases h; assumption⟩
  have hupper : Settles A.Broken [.upper] (columnVector "u" A.upper) := settles_rule fun e =>
    columnVector_eq_error.trans ⟨.upper, fun h => by cases h; assumption⟩
  exact hlower.bind fun lo hlo => hupper.bind fun hi hhi =>
    settles_ite (broken_boundLengths hlo hhi)

theorem checkKeys_settles (hnodup : (A.options.map Prod.fst).Nodup) :
    Settles A.Broken [.keys] (checkKeys ⟨keyed A.options⟩) := by
  refine settles_rule fun e => (checkKeys_keyed hnodup).trans ⟨?_, fun h => ?_⟩
  · rintro ⟨keys, hne, hkeys, rfl⟩
    exact .keys hkeys hne
  · cases h with
    | keys hkeys hne => exact ⟨_, hne, hkeys, rfl⟩

theorem option_settles {α : Type} (k : OptionKey) {x : Except Error α}
    (h : k.check (A.value k) = x.map fun _ => ()) : Settles A.Broken [.option k] x := by
  refine settles_rule fun e => ?_
  rw [← map_eq_error (f := fun _ => ()), ← h]
  exact ⟨.option, fun h => by cases h; assumption⟩

theorem checkValues_settles :
    Settles A.Broken (OptionKey.all.map .option) (checkValues ⟨keyed A.options⟩) := by
  have hfield (k : OptionKey) : A.value k = (⟨keyed A.options⟩ : Sparse).field k.name :=
    (field_keyed A.options k).symm
  refine (option_settles .m ?_).bind fun _ _ => (option_settles .factr ?_).bind fun _ _ =>
    (option_settles .pgtol ?_).bind fun _ _ => (option_settles .maxIts ?_).bind fun _ _ =>
    (option_settles .maxTotalIts ?_).bind fun _ _ => (option_settles .printEvery ?_).bind fun _ _ =>
    (option_settles .errFcn ?_).bind fun _ _ => (option_settles .outputFcn ?_).bind fun _ _ =>
    settles_ok _
  all_goals rw [hfield]; rfl

theorem startingPoint_eq {lo : List Float} (hlo : columnVector "l" A.lower = .ok lo) :
    startingPoint (.int lo.length) ⟨keyed A.options⟩ =
      .ok (A.start.getD (.ofFloats (List.replicate lo.length 0.0))) := by
  obtain ⟨shape, hroom⟩ := room_of_columnVector hlo
  have hzeros : orFault (zeros (.int lo.length)) = .ok (.ofFloats (List.replicate lo.length 0.0)) :=
    orFault_eq_ok.mpr (zeros_eq hroom)
  unfold startingPoint start
  rw [get?_keyed]
  cases A.options.lookup "x0" with
  | none => exact hzeros
  | some v =>
    cases v with
    | nothing => exact hzeros
    | _ => rfl

theorem startVector_settles {lo : List Float} (hlo : columnVector "l" A.lower = .ok lo) :
    Settles A.Broken [.start, .startLength]
      (startVector (A.start.getD (.ofFloats (List.replicate lo.length 0.0))) lo) := by
  cases hv : A.start with
  | none =>
    -- zeros are a column of the right length, and no rule looks at them
    obtain ⟨shape, hroom⟩ := room_of_columnVector hlo
    have hzeros := columnVector_zeros "x0" hroom
    have hcolumn : Settles A.Broken [.start]
        (columnVector "x0" (.ofFloats (List.replicate lo.length 0.0))) := by
      refine settles_rule fun e => ?_
      rw [hzeros]
      exact ⟨nofun, fun h => by cases h; simp_all⟩
    refine hcolumn.bind fun x hx => settles_ite fun e => ?_
    rw [hzeros] at hx
    cases hx
    constructor
    · intro h
      cases h
      simp_all
    · rintro ⟨h, -⟩
      exact absurd List.length_replicate h
  | some v =>
    have hcolumn : Settles A.Broken [.start] (columnVector "x0" v) := by
      refine settles_rule fun e => columnVector_eq_error.trans ⟨.start hv, fun h => ?_⟩
      cases h with
      | start hv' h =>
        rw [hv] at hv'
        cases hv'
        exact h
    exact hcolumn.bind fun x hx => settles_ite (broken_startLength hv hx hlo)

theorem checkBounds_settles {lo hi : List Float} (hlo : columnVector "l" A.lower = .ok lo)
    (hhi : columnVector "u" A.upper = .ok hi) (hlength : lo.length = hi.length) :
    Settles A.Broken [.crossed] (checkBounds lo hi) := by
  refine settles_rule fun e => ?_
  have hplaces : ∀ i, i ∈ crossedIndices (lo.zip hi) ↔ _ := fun i => mem_crossedIndices
  have hsorted := crossedIndices_sorted (lo.zip hi)
  unfold checkBounds
  rw [pairUp?_of_length_eq hlength]
  dsimp only
  constructor
  · intro h
    split at h
    · cases h
    · rename_i places hne
      cases h
      exact .crossed hlo hhi hsorted hplaces hne
  · intro h
    cases h with
    | @crossed lo' hi' places hlo' hhi' hsorted' hmem hne =>
      rw [hlo] at hlo'
      rw [hhi] at hhi'
      cases hlo'
      cases hhi'
      have heq : crossedIndices (lo.zip hi) = places :=
        hsorted.eq_of_mem_iff hsorted' fun i => (hplaces i).trans (hmem i).symm
      rw [heq]
      split
      · exact absurd rfl hne
      · rfl

theorem boundVectors_ok {lo hi : List Float} (h : boundVectors A.lower A.upper = .ok (lo, hi)) :
    columnVector "l" A.lower = .ok lo ∧ columnVector "u" A.upper = .ok hi := by
  unfold boundVectors at h
  obtain ⟨lo', hlo, h⟩ := exists_of_bind_ok h
  obtain ⟨hi', hhi, h⟩ := exists_of_bind_ok h
  split at h
  · cases h
    exact ⟨hlo, hhi⟩
  · cases h

theorem resolveOptions_settles (h : A.Spelled opts) {lo : List Float}
    (hlo : columnVector "l" A.lower = .ok lo) :
    Settles A.Broken ([.keys] ++ OptionKey.all.map .option)
      (resolveOptions (.int lo.length) opts) := by
  have hsparse := orFault_eq_ok.mpr h.sparse
  unfold resolveOptions
  rw [bind_of_ok hsparse]
  refine (checkKeys_settles h.nodup).bind fun _ _ => ?_
  rw [bind_of_ok (startingPoint_eq hlo)]
  exact checkValues_settles.bind fun options _ => settles_ok _

/-- The checks look at the rules in their order. -/
theorem checkArguments_settles (h : A.Spelled opts) :
    Settles A.Broken Rule.order (checkArguments A.fcn A.lower A.upper opts) := by
  unfold checkArguments
  refine evaluator_settles.bind fun evaluator _ => ?_
  refine boundVectors_settles.bind fun (lo, hi) hbounds => ?_
  obtain ⟨hlo, hhi⟩ := boundVectors_ok hbounds
  refine (resolveOptions_settles h hlo).bind fun (options, x0) hoptions => ?_
  obtain ⟨s, hs, -, hx0, -⟩ := resolveOptions_ok hoptions
  rw [h.sparse] at hs
  cases hs
  rw [startingPoint_eq hlo] at hx0
  cases hx0
  exact (startVector_settles hlo).bind fun x _ =>
    (checkBounds_settles hlo hhi (length_of_boundVectors hbounds)).bind fun _ _ => settles_ok _

theorem checkKeys_perm {options options' : List (String × Value)} (hperm : options'.Perm options)
    (hnodup : (options.map Prod.fst).Nodup) :
    checkKeys ⟨keyed options'⟩ = checkKeys ⟨keyed options⟩ := by
  have hnodup' : (options'.map Prod.fst).Nodup := (hperm.map Prod.fst).nodup_iff.mpr hnodup
  have herror (e : Error) : checkKeys ⟨keyed options'⟩ = .error e ↔
      checkKeys ⟨keyed options⟩ = .error e := by
    rw [checkKeys_keyed hnodup, checkKeys_keyed hnodup']
    constructor
    · rintro ⟨keys, hne, hkeys, rfl⟩
      exact ⟨keys, hne, hkeys.perm hperm.symm, rfl⟩
    · rintro ⟨keys, hne, hkeys, rfl⟩
      exact ⟨keys, hne, hkeys.perm hperm, rfl⟩
  cases hkeys : checkKeys ⟨keyed options⟩ with
  | error e => exact (herror e).mpr hkeys
  | ok =>
    cases hkeys' : checkKeys ⟨keyed options'⟩ with
    | error e => exact absurd ((herror e).mp hkeys') (by simp [hkeys])
    | ok => rfl

/-- The order in which a mapping holds its entries makes no difference. -/
theorem checkArguments_perm (h : A.Spelled opts) {options' : List (String × Value)}
    (hperm : options'.Perm A.options) {opts' : Option Value}
    (h' : { A with options := options' }.Spelled opts') :
    checkArguments A.fcn A.lower A.upper opts' = checkArguments A.fcn A.lower A.upper opts := by
  have hget : (⟨keyed options'⟩ : Sparse).get? = (⟨keyed A.options⟩ : Sparse).get? := by
    funext key
    rw [get?_keyed, get?_keyed, lookup_perm hperm h.nodup]
  have hfield : (⟨keyed options'⟩ : Sparse).field = (⟨keyed A.options⟩ : Sparse).field := by
    unfold Sparse.field
    rw [hget]
  have hvalues : checkValues ⟨keyed options'⟩ = checkValues ⟨keyed A.options⟩ := by
    unfold checkValues
    rw [hfield]
  have hresolve (n : Value) : resolveOptions n opts' = resolveOptions n opts := by
    unfold resolveOptions startingPoint
    rw [h.sparse, h'.sparse]
    simp only [orFault_ok, bind_of_ok rfl]
    rw [checkKeys_perm hperm h.nodup, hget, hvalues]
  unfold checkArguments
  simp only [hresolve]

end Arguments

theorem calls_of_unchecked {σ : Type} (c : Client σ) (v : Solver σ) {fcn lower upper : Value}
    {opts : Option Value} (watched : Bool) (cancel : Cancellation) (memory : σ) {e : Error}
    (h : checkArguments fcn lower upper opts = .error e) :
    calls c v fcn lower upper opts watched cancel memory = [] := by
  unfold calls
  rw [minimize_of_unchecked h]
  rfl

/-- Arguments are refused exactly if they break a rule, with what the first broken one gives, and
then nothing has been called, printed or changed. In what order options are given does not matter. -/
theorem first_broken_rule_refuses {A : Arguments} {opts : Option Value} (h : A.Spelled opts) :
    (∀ e, checkArguments A.fcn A.lower A.upper opts = .error e ↔
      FirstBroken A.Broken Rule.order e) ∧
    (∀ k e, A.Broken (.option k) e → e.OfOption k.name) ∧
    (∀ e, FirstBroken A.Broken Rule.order e → ∀ {σ : Type} (c : Client σ) (v : Solver σ)
      (watched : Bool) (cancel : Cancellation) (memory : σ),
      minimize c v A.fcn A.lower A.upper opts watched cancel memory = .refused e cancel memory ∧
      calls c v A.fcn A.lower A.upper opts watched cancel memory = []) ∧
    ∀ options' opts', options'.Perm A.options → { A with options := options' }.Spelled opts' →
      ∀ {σ : Type} (c : Client σ) (v : Solver σ) (watched : Bool) (cancel : Cancellation)
        (memory : σ), minimize c v A.fcn A.lower A.upper opts' watched cancel memory =
          minimize c v A.fcn A.lower A.upper opts watched cancel memory := by
  have hsettles := Arguments.checkArguments_settles h
  refine ⟨hsettles, ?_, ?_, ?_⟩
  · intro k e hbroken
    cases hbroken with
    | option hcheck => exact OptionKey.ofOption_of_check hcheck
  · intro e hfirst σ c v watched cancel memory
    have hrefused := (hsettles e).mpr hfirst
    exact ⟨minimize_of_unchecked hrefused, calls_of_unchecked c v watched cancel memory hrefused⟩
  · intro options' opts' hperm h' σ c v watched cancel memory
    have hsame := Arguments.checkArguments_perm h hperm h'
    unfold minimize
    rw [hsame]

def muddled : Arguments where
  fcn := .callable ⟨0, "f", false⟩
  lower := .list [.float 1.0]
  upper := .list [.float 0.0]
  options := [("zeta", .nothing), ("m", .int (-1)), ("alpha", .int 1)]

def muddledRun (options : List (String × Value)) : Outcome Memory :=
  minimize (Cast.client ⟨#[.squares]⟩) ((Script.ofMoves []).solver "") muddled.fcn muddled.lower
    muddled.upper (some (.mapping (keyed options))) true {} {}

theorem muddled_broken :
    FirstBroken muddled.Broken Rule.order (.unrecognizedOptions ["alpha", "zeta"]) := by
  have hevaluator : Evaluator.ofValue muddled.fcn = .ok (.joint muddled.fcn) := rfl
  have hbounds : boundVectors muddled.lower muddled.upper = .ok ([1.0], [0.0]) := rfl
  have hunknown : UnknownKeys muddled.options ["alpha", "zeta"] := by
    refine ⟨by decide, fun key => ⟨fun hmem => ?_, ?_⟩⟩
    · simp only [List.mem_cons, List.not_mem_nil, or_false] at hmem
      obtain rfl | rfl := hmem <;> decide
    · rintro ⟨hmem, hnew⟩
      simp only [muddled, List.map_cons, List.map_nil, List.mem_cons, List.not_mem_nil,
        or_false] at hmem
      obtain rfl | rfl | rfl := hmem
      · decide
      · exact absurd (by decide) hnew
      · decide
  refine (firstBroken_append_of_kept (Arguments.evaluator_settles.kept hevaluator)).mpr ?_
  refine (firstBroken_append_of_kept (Arguments.boundVectors_settles.kept hbounds)).mpr ?_
  exact .here (.keys hunknown (by simp))

/-- Of all that is wrong with them, the unknown keys are named, in whatever order they are given. -/
theorem first_broken_rule_refuses_unknown_keys :
    muddled.Spelled (some (.mapping (keyed muddled.options))) ∧
      muddledRun muddled.options = .refused (.unrecognizedOptions ["alpha", "zeta"]) {} {} ∧
      muddledRun muddled.options.reverse =
        .refused (.unrecognizedOptions ["alpha", "zeta"]) {} {} := by
  have hspelled : muddled.Spelled (some (.mapping (keyed muddled.options))) := .mapping (by decide)
  obtain ⟨-, -, hrefused, horder⟩ := first_broken_rule_refuses hspelled
  obtain ⟨hrun, -⟩ := hrefused _ muddled_broken (Cast.client ⟨#[.squares]⟩)
    ((Script.ofMoves []).solver "") true {} {}
  have hreversed := horder muddled.options.reverse (some (.mapping (keyed muddled.options.reverse)))
    (List.reverse_perm _) (.mapping (by decide)) (Cast.client ⟨#[.squares]⟩)
    ((Script.ofMoves []).solver "") true {} {}
  exact ⟨hspelled, hrun, hreversed.trans hrun⟩

end BoxMin
