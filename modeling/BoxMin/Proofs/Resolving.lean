import BoxMin.Proofs.OptionValues

/-!
Resolving options is a normalisation. Each option is read from the entry of its own key alone, and
what is read of it is read as itself again; so the resolved options, given as a mapping, resolve to
themselves, and neither the order of entries nor entries that spell out a default matter.
-/

set_option autoImplicit false

namespace BoxMin

namespace OptionKey

def given (k : OptionKey) (o : Options) : Value :=
  match k with
  | .m => o.toFields.m
  | .factr => o.toFields.factr
  | .pgtol => o.toFields.pgtol
  | .maxIts => o.toFields.maxIts
  | .maxTotalIts => o.toFields.maxTotalIts
  | .printEvery => o.toFields.printEvery
  | .errFcn => o.toFields.errFcn
  | .outputFcn => o.toFields.outputFcn

def ofCount (count : Nat) : Value := .int count

def ofCallables (cs : List Callable) : Value := .tuple (cs.map .callable)

def read (k : OptionKey) (v : Value) : Except Error Value :=
  match k with
  | .m | .printEvery => (wholeOption k.name 0 v).map ofCount
  | .maxIts | .maxTotalIts => (wholeOption k.name 1 v).map ofCount
  | .factr | .pgtol => (realOption k.name v).map .float
  | .errFcn | .outputFcn => (callablesOption k.name v).map ofCallables

theorem ofCount_injective : Function.Injective ofCount := fun _ _ h =>
  Int.ofNat.inj (Value.int.inj h)

theorem ofCallables_injective : Function.Injective ofCallables := fun _ _ h =>
  List.map_injective_iff.mpr (fun _ _ => Value.callable.inj) (Value.tuple.inj h)

theorem name_injective {k k' : OptionKey} (h : k.name = k'.name) : k = k' := by
  cases k <;> cases k' <;> first | rfl | exact absurd h (by decide)

theorem name_ne_start (k : OptionKey) : k.name ≠ "x0" := by
  cases k <;> decide

theorem defaults_eq : Options.defaults = all.map fun k => (k.name, k.default) := rfl

end OptionKey

section Images

variable {key : String}

theorem wholeOption_natCast {minimum k : Nat} (h : minimum ≤ k) :
    wholeOption key minimum (.int k) = .ok k := by
  have hnumber : (Value.int k).IsNumber := ⟨rfl, nofun⟩
  rw [wholeOption_of_integral hnumber rfl rfl, atLeast, if_neg (by omega), Int.toNat_natCast]

theorem realOption_float {x : Float} (h : 0.0 ≤ x) : realOption key (.float x) = .ok x :=
  if_pos h

theorem callableEntries_callables (cs : List Callable) :
    callableEntries key (cs.map .callable) = .ok cs := by
  induction cs with
  | nil => rfl
  | cons c cs ih => rw [List.map_cons, callableEntries, ih, Except.map]

theorem eq_ok_of_map {α β : Type} {x : Except Error α} {f : α → β} {a : α}
    (hf : Function.Injective f) (h : x.map f = .ok (f a)) : x = .ok a := by
  obtain ⟨b, hb, heq⟩ := map_eq_ok_iff.mp h
  rw [hb, hf heq]

theorem OptionKey.read_read {k : OptionKey} {v w : Value} (h : k.read v = .ok w) :
    k.read w = .ok w := by
  cases k with
  | m | printEvery | maxIts | maxTotalIts =>
    obtain ⟨count, hcount, rfl⟩ := map_eq_ok_iff.mp h
    rw [read, ofCount, wholeOption_natCast (le_of_wholeOption hcount), Except.map, ofCount]
  | factr | pgtol =>
    obtain ⟨x, hx, rfl⟩ := map_eq_ok_iff.mp h
    rw [read, realOption_float (le_of_realOption hx), Except.map]
  | errFcn | outputFcn =>
    obtain ⟨cs, -, rfl⟩ := map_eq_ok_iff.mp h
    rw [read, ofCallables, callablesOption, callableEntries_callables, Except.map, ofCallables]

end Images

section Values

variable {s s' : Sparse} {o : Options}

theorem checkValues_eq_ok :
    checkValues s = .ok o ↔ ∀ k : OptionKey, k.read (s.field k.name) = .ok (k.given o) := by
  constructor
  · intro h k
    obtain ⟨hm, hfactr, hpgtol, hmaxIts, hmaxTotalIts, hprintEvery, herrFcn, houtputFcn⟩ :=
      checkValues_ok h
    cases k
    case m => exact map_eq_ok_iff.mpr ⟨_, hm, rfl⟩
    case factr => exact map_eq_ok_iff.mpr ⟨_, hfactr, rfl⟩
    case pgtol => exact map_eq_ok_iff.mpr ⟨_, hpgtol, rfl⟩
    case maxIts => exact map_eq_ok_iff.mpr ⟨_, hmaxIts, rfl⟩
    case maxTotalIts => exact map_eq_ok_iff.mpr ⟨_, hmaxTotalIts, rfl⟩
    case printEvery => exact map_eq_ok_iff.mpr ⟨_, hprintEvery, rfl⟩
    case errFcn => exact map_eq_ok_iff.mpr ⟨_, herrFcn, rfl⟩
    case outputFcn => exact map_eq_ok_iff.mpr ⟨_, houtputFcn, rfl⟩
  · intro h
    have hm := eq_ok_of_map OptionKey.ofCount_injective (h .m)
    have hfactr := eq_ok_of_map (fun _ _ => Value.float.inj) (h .factr)
    have hpgtol := eq_ok_of_map (fun _ _ => Value.float.inj) (h .pgtol)
    have hmaxIts := eq_ok_of_map OptionKey.ofCount_injective (h .maxIts)
    have hmaxTotalIts := eq_ok_of_map OptionKey.ofCount_injective (h .maxTotalIts)
    have hprintEvery := eq_ok_of_map OptionKey.ofCount_injective (h .printEvery)
    have herrFcn := eq_ok_of_map OptionKey.ofCallables_injective (h .errFcn)
    have houtputFcn := eq_ok_of_map OptionKey.ofCallables_injective (h .outputFcn)
    unfold checkValues
    exact (bind_of_ok hm).trans <| (bind_of_ok hfactr).trans <| (bind_of_ok hpgtol).trans <|
      (bind_of_ok hmaxIts).trans <| (bind_of_ok hmaxTotalIts).trans <|
      (bind_of_ok hprintEvery).trans <| (bind_of_ok herrFcn).trans (bind_of_ok houtputFcn)

end Values

/-- What a caller gave for options holds these entries, and no key twice. -/
structure Gives (opts : Option Value) (entries : List (Value × Value)) : Prop where
  read : Sparse.ofValue (opts.getD .nothing) = .ok ⟨entries⟩
  distinct : (entries.map Prod.fst).Pairwise fun key key' => Value.equals key key' = false

section Entries

variable {options options' : List (String × Value)} {entries : List (Value × Value)}
  {n : Value} {opts : Option Value} {o : Options} {x0 : Value} {key : String}

theorem mem_keyed {v : Value} : (.text key, v) ∈ keyed options ↔ (key, v) ∈ options := by
  simp [keyed]

theorem keyed_perm_iff : (keyed options').Perm (keyed options) ↔ options'.Perm options := by
  have hinj : Function.Injective fun (e : String × Value) => (Value.text e.1, e.2) := by
    rintro ⟨key, v⟩ ⟨key', v'⟩ h
    simpa using h
  exact List.map_perm_map_iff hinj

theorem distinct_iff :
    ((keyed options).map Prod.fst).Pairwise (fun key key' => Value.equals key key' = false) ↔
      (options.map Prod.fst).Nodup := by
  have hequals (a b : String) : Value.equals (.text a) (.text b) = false ↔ a ≠ b := by
    simp [Value.equals]
  rw [keyed, List.map_map, List.pairwise_map, List.Nodup, List.pairwise_map]
  simp only [Function.comp_apply, hequals]

theorem lookup_eq_none (h : key ∉ options.map Prod.fst) : options.lookup key = none := by
  rw [List.lookup_eq_none_iff]
  exact fun e he => bne_iff_ne.mpr fun heq => h (List.mem_map.mpr ⟨e, he, heq.symm⟩)

theorem checkKeys_eq_ok {s : Sparse} :
    checkKeys s = .ok () ↔ ∀ key ∈ s.keys, ∃ t ∈ Options.recognized, key = .text t := by
  have hknown : s.unknown = [] ↔ ∀ key ∈ s.keys, ∃ t ∈ Options.recognized, key = .text t := by
    rw [Sparse.unknown, List.filter_eq_nil_iff]
    refine forall₂_congr fun key _ => ?_
    cases key <;> simp
  rw [← hknown, checkKeys]
  cases s.unknown with
  | nil => simp
  | cons key rest => cases hkeys : sortedKeys (key :: rest) <;> simp [hkeys]

theorem exists_keyed (h : ∀ key ∈ entries.map Prod.fst, ∃ t, key = .text t) :
    ∃ options, entries = keyed options := by
  induction entries with
  | nil => exact ⟨[], rfl⟩
  | cons entry rest ih =>
    obtain ⟨key, v⟩ := entry
    obtain ⟨t, rfl⟩ := h key List.mem_cons_self
    obtain ⟨options, rfl⟩ := ih fun key hkey => h key (List.mem_cons_of_mem _ hkey)
    exact ⟨(t, v) :: options, rfl⟩

theorem exists_keyed_perm (hperm : entries.Perm (keyed options)) :
    ∃ options', entries = keyed options' ∧ options'.Perm options := by
  have htexts : ∀ key ∈ entries.map Prod.fst, ∃ t, key = .text t := by
    intro key hkey
    rw [(hperm.map Prod.fst).mem_iff, keyed, List.map_map] at hkey
    obtain ⟨e, -, rfl⟩ := List.mem_map.mp hkey
    exact ⟨e.1, rfl⟩
  obtain ⟨options', rfl⟩ := exists_keyed htexts
  exact ⟨options', rfl, keyed_perm_iff.mp hperm⟩

/-- Options and starting point, each from the entry of its own key. -/
structure Resolves (n : Value) (options : List (String × Value)) (o : Options) (x0 : Value) :
    Prop where
  known : ∀ key ∈ options.map Prod.fst, key ∈ Options.recognized
  start : startingPoint n ⟨keyed options⟩ = .ok x0
  value : ∀ k : OptionKey, k.read ((options.lookup k.name).getD k.default) = .ok (k.given o)

theorem resolves_iff (hread : Sparse.ofValue (opts.getD .nothing) = .ok ⟨keyed options⟩) :
    resolveOptions n opts = .ok (o, x0) ↔ Resolves n options o x0 := by
  have hkeys : checkKeys ⟨keyed options⟩ = .ok () ↔
      ∀ key ∈ options.map Prod.fst, key ∈ Options.recognized := by
    have hmap : (⟨keyed options⟩ : Sparse).keys = (options.map Prod.fst).map .text := by
      simp [Sparse.keys, keyed, Function.comp_def]
    rw [checkKeys_eq_ok, hmap, List.forall_mem_map]
    simp
  have hvalues : checkValues ⟨keyed options⟩ = .ok o ↔
      ∀ k : OptionKey, k.read ((options.lookup k.name).getD k.default) = .ok (k.given o) := by
    simp only [checkValues_eq_ok, field_keyed]
  constructor
  · intro h
    obtain ⟨s, hs, hknown, hstart, hchecked⟩ := resolveOptions_ok h
    obtain rfl := Except.ok.inj (hread.symm.trans hs)
    exact ⟨hkeys.mp hknown, hstart, hvalues.mp hchecked⟩
  · rintro ⟨hknown, hstart, hchecked⟩
    unfold resolveOptions
    rw [bind_of_ok (orFault_eq_ok.mpr hread), bind_of_ok (hkeys.mpr hknown), bind_of_ok hstart,
      bind_of_ok (hvalues.mpr hchecked)]

theorem Gives.exists_resolves (hgives : Gives opts entries)
    (h : resolveOptions n opts = .ok (o, x0)) :
    ∃ options, entries = keyed options ∧ (options.map Prod.fst).Nodup ∧
      Resolves n options o x0 := by
  obtain ⟨s, hs, hknown, -⟩ := resolveOptions_ok h
  obtain rfl := Except.ok.inj (hgives.read.symm.trans hs)
  obtain ⟨options, rfl⟩ := exists_keyed fun key hkey =>
    (checkKeys_eq_ok.mp hknown key hkey).imp fun _ => And.right
  exact ⟨options, rfl, distinct_iff.mp hgives.distinct, (resolves_iff hgives.read).mp h⟩

namespace Resolves

theorem congr (h : Resolves n options o x0)
    (hknown : ∀ key ∈ options'.map Prod.fst, key ∈ Options.recognized)
    (hstart : options'.lookup "x0" = options.lookup "x0")
    (hvalue : ∀ k : OptionKey, (options'.lookup k.name).getD k.default =
      (options.lookup k.name).getD k.default) : Resolves n options' o x0 where
  known := hknown
  start := by
    rw [← h.start, startingPoint, startingPoint, get?_keyed, get?_keyed, hstart]
  value k := by rw [hvalue, h.value]

theorem perm (h : Resolves n options o x0) (hnodup : (options.map Prod.fst).Nodup)
    (hperm : options'.Perm options) : Resolves n options' o x0 :=
  h.congr (fun key hkey => h.known key ((hperm.map Prod.fst).mem_iff.mp hkey))
    (lookup_perm hperm hnodup _) fun k => by rw [lookup_perm hperm hnodup]

/-- An entry that spells out the default of a key that is absent changes nothing. -/
theorem spelled (h : Resolves n options o x0) {k : OptionKey}
    (habsent : options.lookup k.name = none) :
    Resolves n ((k.name, k.default) :: options) o x0 := by
  refine h.congr (fun key hkey => ?_) ?_ fun j => ?_
  · rcases List.mem_cons.mp hkey with rfl | hkey
    · cases k <;> decide
    · exact h.known key hkey
  · have hne : ("x0" == k.name) = false := by simpa using k.name_ne_start.symm
    rw [List.lookup_cons, hne]
  · by_cases hj : j = k
    · rw [hj, List.lookup_cons_self, habsent]
      rfl
    · have hne : (j.name == k.name) = false := by
        simpa using fun heq => hj (OptionKey.name_injective heq)
      rw [List.lookup_cons, hne]

end Resolves

def Options.toEntries (o : Options) (x0 : Value) : List (String × Value) :=
  OptionKey.all.map (fun k => (k.name, k.given o)) ++ [("x0", x0)]

theorem lookup_toEntries (k : OptionKey) : (o.toEntries x0).lookup k.name = some (k.given o) := by
  cases k <;> rfl

theorem toEntries_distinct (o : Options) (x0 : Value) : ((o.toEntries x0).map Prod.fst).Nodup := by
  have hnames : (o.toEntries x0).map Prod.fst = Options.recognized := rfl
  rw [hnames]
  decide

theorem gives_toEntries (o : Options) (x0 : Value) :
    Gives (some (.mapping (keyed (o.toEntries x0)))) (keyed (o.toEntries x0)) :=
  ⟨rfl, distinct_iff.mpr (toEntries_distinct o x0)⟩

theorem startingPoint_ne_nothing {s : Sparse} (h : startingPoint n s = .ok x0) : x0 ≠ .nothing := by
  unfold startingPoint at h
  split at h
  case h_3 v hv hsome => exact Except.ok.inj h ▸ hv
  all_goals
    obtain ⟨shape, -, hzeros⟩ := exists_of_bind_ok (orFault_eq_ok.mp h)
    rw [← Except.ok.inj hzeros]
    exact nofun

theorem Resolves.toEntries (h : Resolves n options o x0) : Resolves n (o.toEntries x0) o x0 where
  known := fun key hkey => hkey
  start := by
    have hstart : (o.toEntries x0).lookup "x0" = some x0 := rfl
    have hne := startingPoint_ne_nothing h.start
    rw [startingPoint, get?_keyed, hstart]
    cases x0 <;> first | rfl | exact absurd rfl hne
  value k := by
    rw [lookup_toEntries, Option.getD_some]
    exact OptionKey.read_read (h.value k)

/-- Resolved options, fed back under their keys, resolve to themselves. What is resolved does not
depend on the order of entries or on whether a default is spelled out, and each option only depends
on the entry of its own key. -/
theorem resolving_normalises (hgives : Gives opts entries)
    (h : resolveOptions n opts = .ok (o, x0)) :
    (Gives (some (.mapping (keyed (o.toEntries x0)))) (keyed (o.toEntries x0)) ∧
      resolveOptions n (some (.mapping (keyed (o.toEntries x0)))) = .ok (o, x0)) ∧
    (∀ opts' entries', Gives opts' entries' → entries'.Perm entries →
      resolveOptions n opts' = .ok (o, x0)) ∧
    (∀ key d opts' entries', (key, d) ∈ Options.defaults → .text key ∉ entries.map Prod.fst →
      Gives opts' entries' → entries'.Perm ((.text key, d) :: entries) →
      resolveOptions n opts' = .ok (o, x0)) ∧
    ∀ n' opts' entries' o' x0', Gives opts' entries' →
      resolveOptions n' opts' = .ok (o', x0') →
      (∀ k : OptionKey,
        (∀ v, (.text k.name, v) ∈ entries' ↔ (.text k.name, v) ∈ entries) →
        k.given o' = k.given o) ∧
      (n' = n → (∀ v, (.text "x0", v) ∈ entries' ↔ (.text "x0", v) ∈ entries) → x0' = x0) := by
  obtain ⟨options, rfl, hnodup, hresolves⟩ := hgives.exists_resolves h
  refine ⟨⟨gives_toEntries o x0, (resolves_iff rfl).mpr hresolves.toEntries⟩, ?_, ?_, ?_⟩
  · intro opts' entries' hgives' hperm
    obtain ⟨options', rfl, hperm'⟩ := exists_keyed_perm hperm
    exact (resolves_iff hgives'.read).mpr (hresolves.perm hnodup hperm')
  · intro key d opts' entries' hdefault habsent hgives' hperm
    rw [OptionKey.defaults_eq] at hdefault
    obtain ⟨k, -, heq⟩ := List.mem_map.mp hdefault
    obtain ⟨rfl, rfl⟩ := Prod.mk.inj heq
    have hnew : k.name ∉ options.map Prod.fst := by simpa [keyed] using habsent
    have hspelling : entries'.Perm (keyed ((k.name, k.default) :: options)) := hperm
    obtain ⟨options', rfl, hperm'⟩ := exists_keyed_perm hspelling
    have hspelled := hresolves.spelled (lookup_eq_none hnew)
    exact (resolves_iff hgives'.read).mpr
      (hspelled.perm (List.nodup_cons.mpr ⟨hnew, hnodup⟩) hperm')
  · intro n' opts' entries' o' x0' hgives' h'
    obtain ⟨options', rfl, hnodup', hresolves'⟩ := hgives'.exists_resolves h'
    have hlookup (key : String)
        (hsame : ∀ v, (.text key, v) ∈ keyed options' ↔ (.text key, v) ∈ keyed options) :
        options'.lookup key = options.lookup key := by
      refine Option.ext fun v => ?_
      rw [lookup_eq_some_iff_mem hnodup, lookup_eq_some_iff_mem hnodup', ← mem_keyed, ← mem_keyed,
        hsame]
    constructor
    · intro k hsame
      have hread := hresolves'.value k
      rw [hlookup _ hsame, hresolves.value k] at hread
      exact (Except.ok.inj hread).symm
    · rintro rfl hsame
      have hstart := hresolves'.start
      rw [startingPoint, get?_keyed, hlookup _ hsame, ← get?_keyed, ← startingPoint,
        hresolves.start] at hstart
      exact (Except.ok.inj hstart).symm

def sparseOptions : List (String × Value) :=
  [("maxTotalIts", .float 5000.0), ("errFcn", .callable ⟨0, "f", false⟩), ("x0", .nothing),
    ("factr", .int 10)]

theorem sparse_options_normalised :
    ∃ o x0, Gives (some (.mapping (keyed sparseOptions))) (keyed sparseOptions) ∧
      resolveOptions (.int 2) (some (.mapping (keyed sparseOptions))) = .ok (o, x0) ∧
      o.maxTotalIts = 5000 ∧
      resolveOptions (.int 2) (some (.mapping (keyed (o.toEntries x0)))) = .ok (o, x0) ∧
      resolveOptions (.int 2) (some (.mapping (keyed (("m", .int 5) :: sparseOptions)))) =
        .ok (o, x0) := by
  have hgives : Gives (some (.mapping (keyed sparseOptions))) (keyed sparseOptions) :=
    ⟨rfl, distinct_iff.mpr (by decide)⟩
  have hmore : Gives (some (.mapping (keyed (("m", .int 5) :: sparseOptions))))
      (keyed (("m", .int 5) :: sparseOptions)) :=
    ⟨rfl, distinct_iff.mpr (by decide)⟩
  have htest : ((resolveOptions (.int 2) (some (.mapping (keyed sparseOptions)))).toOption.map
      fun answer => answer.1.maxTotalIts) = some 5000 := by decide +kernel
  obtain ⟨⟨o, x0⟩, hresolve, hcap⟩ := exists_of_map_toOption htest
  obtain ⟨⟨-, hback⟩, -, hspelled, -⟩ := resolving_normalises hgives hresolve
  refine ⟨o, x0, hgives, hresolve, hcap, hback, ?_⟩
  exact hspelled "m" (.int 5) _ _ List.mem_cons_self (by simp [keyed, sparseOptions]) hmore
    (.refl _)

end Entries

end BoxMin
