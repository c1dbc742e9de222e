import Mathlib.Data.List.Sort
import Mathlib.Data.String.Basic
import BoxMin.Proofs.Run.Setup

set_option autoImplicit false

namespace BoxMin

inductive OptionKey where
  | m
  | factr
  | pgtol
  | maxIts
  | maxTotalIts
  | printEvery
  | errFcn
  | outputFcn
  deriving DecidableEq, Repr

namespace OptionKey

def all : List OptionKey :=
  [.m, .factr, .pgtol, .maxIts, .maxTotalIts, .printEvery, .errFcn, .outputFcn]

def name : OptionKey → String
  | .m => "m"
  | .factr => "factr"
  | .pgtol => "pgtol"
  | .maxIts => "maxIts"
  | .maxTotalIts => "maxTotalIts"
  | .printEvery => "printEvery"
  | .errFcn => "errFcn"
  | .outputFcn => "outputFcn"

def default : OptionKey → Value
  | .m => .int 5
  | .factr => .float 1e7
  | .pgtol => .float 1e-5
  | .maxIts => .int 100
  | .maxTotalIts => .int 5000
  | .printEvery => .int 500
  | .errFcn | .outputFcn => .tuple []

def check (k : OptionKey) (v : Value) : Except Error Unit :=
  match k with
  | .m | .printEvery => (wholeOption k.name 0 v).map fun _ => ()
  | .maxIts | .maxTotalIts => (wholeOption k.name 1 v).map fun _ => ()
  | .factr | .pgtol => (realOption k.name v).map fun _ => ()
  | .errFcn | .outputFcn => (callablesOption k.name v).map fun _ => ()

theorem check_default (k : OptionKey) : k.check k.default = .ok () := by
  cases k <;> rfl

end OptionKey

def Error.OfOption (key : String) (e : Error) : Prop :=
  (∃ v rule, e = .invalidOption key v rule) ∨ ∃ fault, e = .fault fault

section Values

variable {key : String} {v : Value} {e : Error}

theorem ofOption_refused (key : String) (v : Value) (rule : OptionRule) :
    (optionRefused key v rule).OfOption key := by
  unfold optionRefused
  split
  · exact .inl ⟨_, _, rfl⟩
  · exact .inr ⟨_, rfl⟩

theorem ofOption_of_refused {α : Type} {w : Value} {rule : OptionRule}
    (h : (.error (optionRefused key w rule) : Except Error α) = .error e) : e.OfOption key :=
  Except.error.inj h ▸ ofOption_refused key w rule

theorem ofOption_of_whole {minimum : Nat} (h : wholeOption key minimum v = .error e) :
    e.OfOption key := by
  unfold wholeOption at h
  extract_lets accept at h
  have haccept (isWhole : Bool) (h : accept isWhole = .error e) : e.OfOption key := by
    simp only [accept] at h
    split at h
    · exact ofOption_of_refused h
    · obtain h | ⟨k, -, h⟩ := exists_of_bind_error h
      · obtain ⟨fault, -, rfl⟩ := orFault_eq_error.mp h
        exact .inr ⟨fault, rfl⟩
      · split at h
        · exact ofOption_of_refused h
        · cases h
  split at h
  · exact haccept false h
  · split at h
    · exact haccept true h
    · split at h
      · obtain h | ⟨x, -, h⟩ := exists_of_bind_error h
        · obtain ⟨fault, -, rfl⟩ := orFault_eq_error.mp h
          exact .inr ⟨fault, rfl⟩
        · exact haccept _ h
      · exact haccept false h

theorem ofOption_of_real (h : realOption key v = .error e) : e.OfOption key := by
  unfold realOption at h
  split at h
  · exact ofOption_of_refused h
  · split at h
    · exact ofOption_of_refused h
    · obtain h | ⟨x, -, h⟩ := exists_of_bind_error h
      · obtain ⟨fault, -, rfl⟩ := orFault_eq_error.mp h
        exact .inr ⟨fault, rfl⟩
      · split at h
        · cases h
        · exact ofOption_of_refused h

theorem ofOption_of_entries {vs : List Value} (h : callableEntries key vs = .error e) :
    e.OfOption key := by
  induction vs with
  | nil => cases h
  | cons v vs ih =>
    unfold callableEntries at h
    cases v with
    | callable c => exact ih (map_eq_error.mp h)
    | _ => exact ofOption_of_refused h

theorem ofOption_of_callables (h : callablesOption key v = .error e) : e.OfOption key := by
  unfold callablesOption at h
  split at h
  · cases h
  · cases h
  · exact ofOption_of_entries h
  · exact ofOption_of_entries h
  · exact ofOption_of_entries h
  · exact ofOption_of_refused h

theorem OptionKey.ofOption_of_check {k : OptionKey} (h : k.check v = .error e) :
    e.OfOption k.name := by
  cases k <;> simp only [check, map_eq_error] at h
  · exact ofOption_of_whole h
  · exact ofOption_of_real h
  · exact ofOption_of_real h
  · exact ofOption_of_whole h
  · exact ofOption_of_whole h
  · exact ofOption_of_whole h
  · exact ofOption_of_callables h
  · exact ofOption_of_callables h

end Values

def keyed (options : List (String × Value)) : List (Value × Value) :=
  options.map fun (key, v) => (.text key, v)

section Keyed

variable {options options' : List (String × Value)} {key : String} {keys : List String} {e : Error}

theorem get?_keyed (options : List (String × Value)) (key : String) :
    (⟨keyed options⟩ : Sparse).get? key = options.lookup key := by
  unfold Sparse.get? Value.lookup? keyed
  induction options with
  | nil => rfl
  | cons entry rest ih =>
    obtain ⟨k, v⟩ := entry
    have hequals : Value.equals (.text k) (.text key) = decide (k = key) := rfl
    by_cases hkey : k = key
    · subst hkey
      rw [decide_eq_true rfl] at hequals
      simp [hequals]
    · have hne : (key == k) = false := by simpa using Ne.symm hkey
      simpa [hequals, hkey, List.lookup_cons, hne] using ih

theorem field_keyed (options : List (String × Value)) (k : OptionKey) :
    (⟨keyed options⟩ : Sparse).field k.name = (options.lookup k.name).getD k.default := by
  unfold Sparse.field
  rw [get?_keyed]
  cases k <;> rfl

theorem lookup_eq_some_iff_mem (hnodup : (options.map Prod.fst).Nodup) {v : Value} :
    options.lookup key = some v ↔ (key, v) ∈ options := by
  induction options with
  | nil => simp
  | cons entry rest ih =>
    obtain ⟨k, w⟩ := entry
    rw [List.map_cons, List.nodup_cons] at hnodup
    obtain ⟨hnew, hrest⟩ := hnodup
    by_cases hkey : key = k
    · subst hkey
      have habsent : (key, v) ∉ rest := fun hmem => hnew (List.mem_map.mpr ⟨_, hmem, rfl⟩)
      simp [habsent, eq_comm]
    · have hne : (key == k) = false := by simpa using hkey
      simp [List.lookup_cons, hne, hkey, ih hrest]

theorem lookup_perm (h : options'.Perm options) (hnodup : (options.map Prod.fst).Nodup)
    (key : String) : options'.lookup key = options.lookup key := by
  have hnodup' : (options'.map Prod.fst).Nodup := (h.map Prod.fst).nodup_iff.mpr hnodup
  refine Option.ext fun v => ?_
  rw [lookup_eq_some_iff_mem hnodup', lookup_eq_some_iff_mem hnodup, h.mem_iff]

structure UnknownKeys (options : List (String × Value)) (keys : List String) : Prop where
  sorted : keys.Pairwise (· < ·)
  mem : ∀ key, key ∈ keys ↔ key ∈ options.map Prod.fst ∧ key ∉ Options.recognized

theorem UnknownKeys.eq {keys' : List String} (h : UnknownKeys options keys)
    (h' : UnknownKeys options keys') : keys = keys' :=
  h.sorted.eq_of_mem_iff h'.sorted fun key => (h.mem key).trans (h'.mem key).symm

theorem UnknownKeys.perm (h : UnknownKeys options keys) (hperm : options'.Perm options) :
    UnknownKeys options' keys where
  sorted := h.sorted
  mem key := by rw [h.mem, (hperm.map Prod.fst).mem_iff]

theorem sortTexts_sorted (h : keys.Nodup) : (sortTexts keys).Pairwise (· < ·) := by
  have hle : (sortTexts keys).Pairwise (· ≤ ·) :=
    (List.pairwise_mergeSort (by simpa using fun a b c => le_trans) (by simpa using le_total)
      keys).imp (by simp)
  have hnodup : (sortTexts keys).Nodup := (List.mergeSort_perm keys _).nodup_iff.mpr h
  exact hle.imp₂ (fun a b hab hne => lt_of_le_of_ne hab hne) hnodup

theorem mem_sortTexts : key ∈ sortTexts keys ↔ key ∈ keys :=
  (List.mergeSort_perm keys _).mem_iff

theorem allTexts?_texts (keys : List String) : allTexts? (keys.map .text) = some keys := by
  induction keys with
  | nil => rfl
  | cons key keys ih => simp [allTexts?, ih]

theorem unknown_keyed (options : List (String × Value)) :
    (⟨keyed options⟩ : Sparse).unknown =
      ((options.map Prod.fst).filter fun key => !Options.recognized.contains key).map .text := by
  have hkeys : (⟨keyed options⟩ : Sparse).keys = (options.map Prod.fst).map .text := by
    simp [Sparse.keys, keyed, Function.comp_def]
  unfold Sparse.unknown
  rw [hkeys, List.filter_map]
  rfl

theorem checkKeys_keyed (hnodup : (options.map Prod.fst).Nodup) :
    checkKeys ⟨keyed options⟩ = .error e ↔
      ∃ keys, keys ≠ [] ∧ UnknownKeys options keys ∧ e = .unrecognizedOptions keys := by
  obtain ⟨unsorted, hunsorted⟩ : ∃ unsorted, (options.map Prod.fst).filter
      (fun key => !Options.recognized.contains key) = unsorted := ⟨_, rfl⟩
  have hsorted : UnknownKeys options (sortTexts unsorted) := by
    rw [← hunsorted]
    exact ⟨sortTexts_sorted (hnodup.filter _), fun key => by
      rw [mem_sortTexts, List.mem_filter]; simp⟩
  unfold checkKeys
  rw [unknown_keyed, hunsorted]
  cases unsorted with
  | nil =>
    refine ⟨nofun, ?_⟩
    rintro ⟨keys, hne, hkeys, -⟩
    have hnone : sortTexts [] = [] := by simp [sortTexts]
    exact absurd ((hkeys.eq hsorted).trans hnone) hne
  | cons key rest =>
    have hmem : key ∈ sortTexts (key :: rest) := mem_sortTexts.mpr List.mem_cons_self
    have hrefused : sortedKeys ((key :: rest).map .text) = .ok (sortTexts (key :: rest)) := by
      rw [sortedKeys, allTexts?_texts]
    rw [List.map_cons] at hrefused ⊢
    dsimp only
    rw [hrefused]
    constructor
    · intro h
      cases h
      exact ⟨_, List.ne_nil_of_mem hmem, hsorted, rfl⟩
    · rintro ⟨keys, -, hkeys, rfl⟩
      rw [hkeys.eq hsorted]

end Keyed

end BoxMin
