import BoxMin.Proofs.Reconfiguring
import Mathlib.Data.List.Nodup

set_option autoImplicit false

namespace BoxMin

def LogCall.ask : Option String → LogCall
  | none => .get .nothing
  | some s => .get (.text s)

theorem Reconfiguration.plan_name {c : Reconfiguration} {change : Logger → Logger}
    (h : c.plan = .ok change) (l : Logger) : (change l).name = l.name := by
  have hmap {x : Except Fault Int} {changed : Int → Logger → Logger}
      (hx : x.map changed = .ok change) (hname : ∀ k, (changed k l).name = l.name) :
      (change l).name = l.name := by
    cases x with
    | error f => cases hx
    | ok k =>
      cases hx
      exact hname k
  cases c with
  | level v => exact hmap h fun _ => rfl
  | outputs v format stream =>
    simp only [plan] at h
    split at h
    · cases h
    · exact hmap h fun _ => rfl

namespace Registry

def qualified : Option String → String
  | none => package
  | some s => qualify s

def InPackage (name : String) : Prop :=
  name = package ∨ (package ++ ".").toList <+: name.toList

instance (name : String) : Decidable (InPackage name) := by
  unfold InPackage
  infer_instance

/-- Begins like the package, and goes on with something else than a dot. -/
def Strays (name : String) : Prop :=
  ∃ c cs, name.toList = package.toList ++ c :: cs ∧ c ≠ '.'

theorem qualify_of_starts {s : String} (h : package.toList <+: s.toList) : qualify s = s :=
  if_pos (List.isPrefixOf_iff_prefix.mpr h)

theorem qualify_of_not_starts {s : String} (h : ¬ package.toList <+: s.toList) :
    qualify s = package ++ "." ++ s :=
  if_neg fun h' => h (List.isPrefixOf_iff_prefix.mp h')

theorem prefix_qualify (s : String) : package.toList <+: (qualify s).toList := by
  by_cases h : package.toList <+: s.toList
  · rwa [qualify_of_starts h]
  · rw [qualify_of_not_starts h, String.toList_append, String.toList_append, List.append_assoc]
    exact List.prefix_append _ _

theorem qualify_qualified (a : Option String) : qualify (qualified a) = qualified a := by
  cases a with
  | none => exact qualify_package
  | some s => exact qualify_of_starts (prefix_qualify s)

theorem inPackage_qualify_iff (s : String) : InPackage (qualify s) ↔ ¬ Strays s := by
  by_cases h : package.toList <+: s.toList
  · rw [qualify_of_starts h]
    obtain ⟨rest, hrest⟩ := h
    cases rest with
    | nil =>
      have hs : s = package := String.toList_injective (by rw [← hrest, List.append_nil])
      exact iff_of_true (.inl hs) (by simp [Strays, hs])
    | cons c cs =>
      have hne : s ≠ package := fun hs => by simp [hs] at hrest
      simp [InPackage, Strays, hne, ← hrest, eq_comm]
  · rw [qualify_of_not_starts h]
    have hbelow : (package ++ ".").toList <+: (package ++ "." ++ s).toList :=
      ⟨s.toList, String.toList_append.symm⟩
    exact iff_of_true (.inr hbelow) fun ⟨c, cs, hs, _⟩ => h ⟨c :: cs, hs.symm⟩

theorem inPackage_qualified_iff (a : Option String) :
    InPackage (qualified a) ↔ ¬ ∃ s, a = some s ∧ Strays s := by
  cases a with
  | none => exact iff_of_true (.inl rfl) nofun
  | some s => simp [qualified, inPackage_qualify_iff]

def names (r : Registry) : List String := r.loggers.map (·.name)

/-- Loggers keep their places and names, and no name comes to stand twice. -/
structure Extends (r r' : Registry) : Prop where
  names : r.names <+: r'.names
  apart : r.names.Nodup → r'.names.Nodup

variable {r r' r'' : Registry} {current : Value}

theorem Extends.of_names_eq (h : r'.names = r.names) : r.Extends r' :=
  ⟨h ▸ List.prefix_rfl, fun hr => h ▸ hr⟩

theorem Extends.trans (h : r.Extends r') (h' : r'.Extends r'') : r.Extends r'' :=
  ⟨h.names.trans h'.names, fun hr => h'.apart (h.apart hr)⟩

theorem Extends.getElem? (h : r.Extends r') {i : Nat} {s : String} (hi : r.names[i]? = some s) :
    r'.names[i]? = some s := by
  obtain ⟨hlt, rfl⟩ := List.getElem?_eq_some_iff.mp hi
  exact List.prefix_iff_getElem?.mp h.names i hlt

theorem find?_eq_none_iff {name : String} : r.find? name = none ↔ name ∉ r.names := by
  simp [find?, Registry.names]

theorem getNamed_extends (h : r.Uniform current) (name : String) :
    ∃ l, (r.getNamed name).2 = .ok l ∧ l.name = name ∧ l ∈ (r.getNamed name).1.loggers ∧
      r.Extends (r.getNamed name).1 := by
  cases hfind : r.find? name with
  | some l =>
    have hget : r.getNamed name = (r, .ok l) := by simp only [getNamed, hfind]
    rw [hget]
    exact ⟨l, rfl, by simpa using List.find?_some hfind, List.mem_of_find?_eq_some hfind,
      .of_names_eq rfl⟩
  | none =>
    obtain ⟨k, hk, -⟩ := h.keep
    let l : Logger := ⟨name, k, [⟨k, Template.default, "stderr"⟩], false⟩
    have hget : r.getNamed name = ({ r with loggers := r.loggers ++ [l] }, .ok l) := by
      simp only [getNamed, hfind, Logger.equip_ok (h.default ▸ hk), l]
    rw [hget]
    have hnames : Registry.names { r with loggers := r.loggers ++ [l] } = r.names ++ [name] := by
      simp [Registry.names, l]
    refine ⟨l, rfl, rfl, by simp, ⟨hnames ▸ List.prefix_append _ _, fun hr => ?_⟩⟩
    rw [hnames, ← List.concat_eq_append]
    exact hr.concat (find?_eq_none_iff.mp hfind)

theorem carryOut_extends (c : Reconfiguration) (level : Value) :
    r.Extends (r.carryOut level c.plan).1 := by
  cases hplan : c.plan with
  | error f => exact .of_names_eq rfl
  | ok change =>
    exact .of_names_eq (by simp [carryOut, Registry.names, Reconfiguration.plan_name hplan])

theorem perform_ask (a : Option String) : (LogCall.ask a).perform r =
    ((r.getNamed (qualified a)).1, (r.getNamed (qualified a)).2.map some) := by
  cases a <;> rfl

theorem perform_extends (h : r.Uniform current) (call : LogCall) :
    r.Extends (call.perform r).1 := by
  cases call with
  | get name =>
    cases hname : nameOf name with
    | error f => exact .of_names_eq (by simp only [LogCall.perform, get, hname])
    | ok s =>
      obtain ⟨-, -, -, -, hextends⟩ := getNamed_extends h s
      simpa only [LogCall.perform, get, hname] using hextends
  | setLevel level =>
    exact Reconfiguration.perform_eq h (.level level) ▸ carryOut_extends _ _
  | configure level format stream =>
    exact Reconfiguration.perform_eq h (.outputs level format stream) ▸ carryOut_extends _ _

theorem after_extends (h : r.Uniform current) (calls : List LogCall) :
    r.Extends (r.after calls) := by
  induction calls generalizing r current with
  | nil => exact .of_names_eq rfl
  | cons call calls ih =>
    exact (perform_extends h call).trans (ih (LogCall.perform_kept h call).uniform)

/-- Asked for a name, the registry answers with the logger at a place. -/
def GivesAt (r : Registry) (a : Option String) (i : Nat) (l : Logger) : Prop :=
  ((LogCall.ask a).perform r).2 = .ok (some l) ∧
    ((LogCall.ask a).perform r).1.loggers[i]? = some l

theorem GivesAt.name_eq (h : r.Uniform current) {a : Option String} {i : Nat} {l : Logger}
    (hl : r.GivesAt a i l) : l.name = qualified a := by
  obtain ⟨m, hget, hname, -⟩ := getNamed_extends h (qualified a)
  have hanswer := hl.1
  rw [perform_ask, hget] at hanswer
  cases hanswer
  exact hname

theorem GivesAt.names_eq (h : r.Uniform current) {a : Option String} {i : Nat} {l : Logger}
    (hl : r.GivesAt a i l) : ((LogCall.ask a).perform r).1.names[i]? = some (qualified a) := by
  rw [Registry.names, List.getElem?_map, hl.2, ← hl.name_eq h]
  rfl

theorem exists_givesAt (h : r.Uniform current) (a : Option String) : ∃ i l, r.GivesAt a i l := by
  obtain ⟨l, hget, -, hmem, -⟩ := getNamed_extends h (qualified a)
  obtain ⟨i, hi⟩ := List.mem_iff_getElem?.mp hmem
  exact ⟨i, l, by rw [perform_ask, hget]; rfl, by rw [perform_ask]; exact hi⟩

theorem place_eq_iff (hr : r.names.Nodup) {i j : Nat} {s t : String} (hi : r.names[i]? = some s)
    (hj : r.names[j]? = some t) : i = j ↔ s = t := by
  obtain ⟨hlt, -⟩ := List.getElem?_eq_some_iff.mp hi
  rw [← List.getElem?_inj hlt hr, hi, hj, Option.some_inj]

end Registry

/-- Whatever the calls before and between, a name asks for one logger of the package, unless it
strays. That logger answers to its own name, and to other names that come to the same. -/
theorem logger_in_package_iff (before between : List LogCall) (a : Option String) :
    let r := Registry.loaded.after before
    let r' := ((LogCall.ask a).perform r).1.after between
    (∃ i l, r.GivesAt a i l) ∧ ∀ i l, r.GivesAt a i l → l.name = Registry.qualified a ∧
      (Registry.InPackage l.name ↔ ¬ ∃ s, a = some s ∧ Registry.Strays s) ∧
      (∃ m, r'.GivesAt (some l.name) i m) ∧
      ∀ b j m, r'.GivesAt b j m → (i = j ↔ Registry.qualified a = Registry.qualified b) := by
  intro r r'
  have h : r.Uniform _ := Registry.uniform_loaded.after before
  have hnodup : r.names.Nodup := (Registry.after_extends Registry.uniform_loaded before).apart
    (by decide +kernel)
  have hasked := LogCall.perform_kept h (.ask a)
  have hmade : r.Extends _ := Registry.perform_extends h (.ask a)
  have hbetween : ((LogCall.ask a).perform r).1.Extends r' :=
    Registry.after_extends hasked.uniform between
  have h' : r'.Uniform _ := hasked.uniform.after between
  refine ⟨Registry.exists_givesAt h a, fun i l hl => ?_⟩
  have hname := hl.name_eq h
  -- the place of the first logger is still that of its name after the second is asked for
  have hplace (b : Option String) :
      ((LogCall.ask b).perform r').1.names[i]? = some (Registry.qualified a) :=
    (hbetween.trans (Registry.perform_extends h' (.ask b))).getElem? (hl.names_eq h)
  have hone {b : Option String} {j : Nat} {m : Logger} (hm : r'.GivesAt b j m) :
      i = j ↔ Registry.qualified a = Registry.qualified b :=
    Registry.place_eq_iff (((hmade.trans hbetween).trans
      (Registry.perform_extends h' (.ask b))).apart hnodup) (hplace b) (hm.names_eq h')
  refine ⟨hname, hname ▸ Registry.inPackage_qualified_iff a, ?_, fun b j m => hone⟩
  obtain ⟨j, m, hm⟩ := Registry.exists_givesAt h' (some l.name)
  have hown : Registry.qualified (some l.name) = Registry.qualified a := by
    rw [hname]
    exact Registry.qualify_qualified a
  exact ⟨m, (hone hm).mpr hown.symm ▸ hm⟩

theorem empty_name_asks_for_dotted_package :
    let r := Registry.loaded.after refusedLogCalls
    let r' := ((LogCall.ask (some "")).perform r).1.after [.setLevel (.text "info")]
    ∃ i l m, r.GivesAt (some "") i l ∧ Registry.InPackage l.name ∧
      r'.GivesAt (some "lbfgsb_rc.") i m := by
  intro r r'
  obtain ⟨⟨i, l, hl⟩, hgiven⟩ :=
    logger_in_package_iff refusedLogCalls [.setLevel (.text "info")] (some "")
  obtain ⟨(hname : l.name = "lbfgsb_rc."), hpackage, ⟨m, hm⟩, -⟩ := hgiven i l hl
  exact ⟨i, l, m, hl, hpackage.mpr (by simp [Registry.Strays]), hname ▸ hm⟩

theorem strayed_logger_outside_package :
    Registry.loaded.GivesAt (some "lbfgsb_rcx") 1
        ⟨"lbfgsb_rcx", 30, [⟨30, Template.default, "stderr"⟩], false⟩ ∧
      ¬ Registry.InPackage "lbfgsb_rcx" := by
  exact ⟨⟨by rfl, by rfl⟩, by decide +kernel⟩

end BoxMin
