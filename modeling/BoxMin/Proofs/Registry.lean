import BoxMin.Log.Registry

/-!
What loggers have in common after any calls: one handler, and one level that is also the handler's
and the default. A call that is refused is refused by the first logger it comes to, and the driver's
logger is there from the beginning; so it has changed nothing by then.
-/

set_option autoImplicit false

namespace BoxMin

section Changing

variable {α : Type} {change : α → α × Except Fault Unit}

theorem changeEach_ok {changed : α → α} (h : ∀ a, change a = (changed a, .ok ())) (as : List α) :
    changeEach change as = (as.map changed, .ok ()) := by
  induction as with
  | nil => rfl
  | cons a as ih => simp only [changeEach, h, ih, List.map_cons]

theorem changeEach_error {f : Fault} (h : ∀ a, change a = (a, .error f)) {as : List α}
    (hne : as ≠ []) : changeEach change as = (as, .error f) := by
  cases as with
  | nil => exact absurd rfl hne
  | cons a as => simp only [changeEach, h]

end Changing

variable {level : Value} {k : Int} {f : Fault}

namespace Logger

theorem setLevel_ok (h : Level.check level = .ok k) (l : Logger) :
    l.setLevel level =
      ({ l with level := k, handlers := l.handlers.map ({ · with level := k }) }, .ok ()) := by
  have hhandler (h' : Handler) : h'.setLevel level = ({ h' with level := k }, .ok ()) := by
    simp only [Handler.setLevel, h]
  simp only [setLevel, h, changeEach_ok hhandler]

theorem setLevel_error (h : Level.check level = .error f) (l : Logger) :
    l.setLevel level = (l, .error f) := by
  simp only [setLevel, h]

theorem setHandler_ok (h : Level.check level = .ok k) (template stream : String) (l : Logger) :
    l.setHandler level template stream =
      ({ l with level := k, handlers := [⟨k, template, stream⟩] }, .ok ()) := by
  simp only [setHandler, Handler.setLevel, h]

theorem setHandler_error (h : Level.check level = .error f) (template stream : String)
    (l : Logger) : l.setHandler level template stream = (l, .error f) := by
  simp only [setHandler, h]

/-- One handler, the level of which is that of the logger, and no way further up. -/
structure Sealed (k : Int) (l : Logger) : Prop where
  propagate : l.propagate = false
  level : l.level = k
  handler : ∃ h, l.handlers = [h] ∧ h.level = k

theorem Sealed.setLevel {j : Int} {l : Logger} (hl : l.Sealed j) :
    Sealed k { l with level := k, handlers := l.handlers.map ({ · with level := k }) } := by
  obtain ⟨h, hhandlers, -⟩ := hl.handler
  exact ⟨hl.propagate, rfl, { h with level := k }, by rw [hhandlers]; rfl, rfl⟩

theorem Sealed.setHandler {j : Int} {l : Logger} (hl : l.Sealed j) (template stream : String) :
    Sealed k { l with level := k, handlers := [⟨k, template, stream⟩] } :=
  ⟨hl.propagate, rfl, _, rfl, rfl⟩

theorem equip_ok (h : Level.check level = .ok k) (name : String) :
    Logger.equip level { name } =
      .ok ⟨name, k, [⟨k, Template.default, "stderr"⟩], false⟩ := by
  simp only [equip, List.isEmpty_nil, if_true, setHandler_ok h]

theorem exists_equip (h : Level.check level = .ok k) (name : String) :
    ∃ l : Logger, Logger.equip level { name } = .ok l ∧ l.Sealed k :=
  ⟨_, equip_ok h name, rfl, rfl, _, rfl, rfl⟩

end Logger

namespace Registry

variable {r : Registry}

theorem changeAll_ok {change : Logger → Logger × Except Fault Unit} {changed : Logger → Logger}
    (h : ∀ l, change l = (changed l, .ok ())) :
    r.changeAll level change = (⟨level, r.loggers.map changed⟩, .ok ()) := by
  simp only [changeAll, changeEach_ok h]

theorem changeAll_error {change : Logger → Logger × Except Fault Unit}
    (h : ∀ l, change l = (l, .error f)) (hne : r.loggers ≠ []) :
    r.changeAll level change = (r, .error f) := by
  simp only [changeAll, changeEach_error h hne]

theorem getNamed_cases (h : Level.check r.default = .ok k) (name : String) :
    (∃ l ∈ r.loggers, r.getNamed name = (r, .ok l)) ∨
      ∃ l : Logger, l.Sealed k ∧
        r.getNamed name = ({ r with loggers := r.loggers ++ [l] }, .ok l) := by
  cases hfind : r.find? name with
  | some l =>
    refine .inl ⟨l, List.mem_of_find?_eq_some hfind, ?_⟩
    simp only [getNamed, hfind]
  | none =>
    obtain ⟨l, hl, hsealed⟩ := Logger.exists_equip h name
    refine .inr ⟨l, hsealed, ?_⟩
    simp only [getNamed, hfind, hl]

/-- There are loggers, and all of them keep to the level that new ones get. -/
structure Uniform (r : Registry) (level : Value) : Prop where
  default : r.default = level
  nonempty : r.loggers ≠ []
  keep : ∃ k, Level.check level = .ok k ∧ ∀ l ∈ r.loggers, l.Sealed k

end Registry

namespace LogCall

def levelAfter (current : Value) (answer : Except Fault (Option Logger)) : LogCall → Value
  | get _ => current
  | setLevel level | configure level _ _ => match answer with
    | .ok _ => Level.coerce level
    | .error _ => current

def Accepted : LogCall → Prop
  | get name => ∃ s, Registry.nameOf name = .ok s
  | setLevel level => ∃ k, Level.check (Level.coerce level) = .ok k
  | configure level format _ =>
    (∃ template, Template.ofValue format = .ok template) ∧
      ∃ k, Level.check (Level.coerce level) = .ok k

/-- What a call comes to: the loggers keep to one level, a refusal changes nothing, and the logger
that was asked for is one of them. -/
structure Kept (call : LogCall) (r : Registry) (current : Value) (r' : Registry)
    (answer : Except Fault (Option Logger)) : Prop where
  uniform : r'.Uniform (call.levelAfter current answer)
  answered : (∃ a, answer = .ok a) ↔ call.Accepted
  refused : ∀ f, answer = .error f → r' = r
  listed : ∀ l, answer = .ok (some l) → l ∈ r'.loggers

variable {r : Registry} {current : Value}

theorem Kept.of_refused {call : LogCall} (h : r.Uniform current) (f : Fault)
    (hsame : call.levelAfter current (.error f) = current) (hno : ¬ call.Accepted) :
    call.Kept r current r (.error f) :=
  ⟨hsame.symm ▸ h, iff_of_false (by simp) hno, fun _ _ => rfl, by simp⟩

theorem Kept.of_answered {call : LogCall} {r' : Registry} {a : Option Logger}
    (h : r'.Uniform (call.levelAfter current (.ok a))) (hyes : call.Accepted)
    (hlisted : ∀ l, a = some l → l ∈ r'.loggers) : call.Kept r current r' (.ok a) :=
  ⟨h, iff_of_true ⟨a, rfl⟩ hyes, by simp, by simpa using hlisted⟩

theorem get_kept (h : r.Uniform current) (name : Value) :
    (get name).Kept r current ((get name).perform r).1 ((get name).perform r).2 := by
  cases hname : Registry.nameOf name with
  | error f =>
    have hperform : (get name).perform r = (r, .error f) := by
      simp only [perform, Registry.get, hname, Except.map]
    rw [hperform]
    exact .of_refused h f rfl (by simp [Accepted, hname])
  | ok s =>
    have haccepted : (get name).Accepted := ⟨s, hname⟩
    obtain ⟨k, hk, hloggers⟩ := h.keep
    rcases Registry.getNamed_cases (h.default ▸ hk) s with ⟨l, hl, hget⟩ | ⟨l, hl, hget⟩
    · have hperform : (get name).perform r = (r, .ok (some l)) := by
        simp only [perform, Registry.get, hname, hget, Except.map]
      rw [hperform]
      exact .of_answered h haccepted (by simpa using hl)
    · have hperform : (get name).perform r =
          ({ r with loggers := r.loggers ++ [l] }, .ok (some l)) := by
        simp only [perform, Registry.get, hname, hget, Except.map]
      rw [hperform]
      refine .of_answered ⟨h.default, by simp, k, hk, ?_⟩ haccepted (by simp)
      simpa [or_imp, forall_and] using ⟨hloggers, hl⟩

theorem changeAll_kept {call : LogCall} {level : Value}
    {change : Logger → Logger × Except Fault Unit} {changed : Int → Logger → Logger}
    (h : r.Uniform current)
    (hok : ∀ k, Level.check level = .ok k → ∀ l, change l = (changed k l, .ok ()))
    (herror : ∀ f, Level.check level = .error f → ∀ l, change l = (l, .error f))
    (hchanged : ∀ j k l, l.Sealed j → (changed k l).Sealed k)
    (hafter : call.levelAfter current (.ok none) = level)
    (hsame : ∀ f, call.levelAfter current (.error f) = current)
    (haccepted : call.Accepted ↔ ∃ k, Level.check level = .ok k) :
    call.Kept r current (r.changeAll level change).1
      ((r.changeAll level change).2.map fun _ => none) := by
  obtain ⟨j, -, hloggers⟩ := h.keep
  cases hk : Level.check level with
  | error f =>
    -- with no logger at all the level would go unchecked into the default
    rw [Registry.changeAll_error (herror f hk) h.nonempty]
    exact .of_refused h f (hsame f) (by simp [haccepted, hk])
  | ok k =>
    rw [Registry.changeAll_ok (hok k hk)]
    refine .of_answered ?_ (haccepted.mpr ⟨k, hk⟩) (by simp)
    rw [hafter]
    refine ⟨rfl, by simpa using h.nonempty, k, hk, fun l' hl' => ?_⟩
    obtain ⟨l, hl, rfl⟩ := List.mem_map.mp hl'
    exact hchanged j k l (hloggers l hl)

theorem perform_kept (h : r.Uniform current) (call : LogCall) :
    call.Kept r current (call.perform r).1 (call.perform r).2 := by
  cases call with
  | get name => exact get_kept h name
  | setLevel level =>
    exact changeAll_kept h (fun _ hk => Logger.setLevel_ok hk)
      (fun _ hf => Logger.setLevel_error hf) (fun _ _ _ hl => hl.setLevel) rfl (fun _ => rfl)
      Iff.rfl
  | configure level format stream =>
    simp only [perform, Registry.configure]
    cases htemplate : Template.ofValue format with
    | error f => exact .of_refused h f rfl (by simp [Accepted, htemplate])
    | ok template =>
      exact changeAll_kept h (fun _ hk => Logger.setHandler_ok hk template stream)
        (fun _ hf => Logger.setHandler_error hf template stream)
        (fun _ _ _ hl => hl.setHandler template stream) rfl (fun _ => rfl)
        (by simp [Accepted, htemplate])

end LogCall

namespace Registry

variable {r : Registry} {current : Value}

def after (r : Registry) : List LogCall → Registry
  | [] => r
  | call :: calls => (call.perform r).1.after calls

/-- The level of the last of the calls that set one and were not refused. -/
def lastLevel (r : Registry) (current : Value) : List LogCall → Value
  | [] => current
  | call :: calls =>
    (call.perform r).1.lastLevel (call.levelAfter current (call.perform r).2) calls

theorem uniform_loaded : loaded.Uniform (.int Level.warning) := by
  have hwarning : Level.check ({} : Registry).default = .ok Level.warning := rfl
  rcases getNamed_cases hwarning (qualify "driver") with ⟨l, hl, -⟩ | ⟨l, hl, hget⟩
  · cases hl
  · rw [loaded, hget]
    exact ⟨rfl, List.cons_ne_nil _ _, _, hwarning, by simpa using hl⟩

theorem Uniform.after (h : r.Uniform current) (calls : List LogCall) :
    (r.after calls).Uniform (r.lastLevel current calls) := by
  induction calls generalizing r current with
  | nil => exact h
  | cons call calls ih => exact ih (LogCall.perform_kept h call).uniform

theorem climb_sealed {l : Logger} {k : Int} (hl : l.Sealed k) (outer : List Handler)
    (above : List Logger) : climb outer (l :: above) = l.handlers := by
  simp [climb, hl.propagate]

theorem le_of_passes {l : Logger} {level : Int} (h : r.passes l level = true) :
    l.level ≤ level := by
  obtain ⟨hpos, hle⟩ : 0 < level ∧ r.effectiveLevel l ≤ level := by simpa [passes] using h
  by_cases hlevel : l.level = Level.notset
  · have hzero : Level.notset = 0 := rfl
    omega
  · have heffective : r.effectiveLevel l = l.level := by simp [effectiveLevel, hlevel]
    omega

theorem reached_sealed {l : Logger} {k : Int} (hl : l.Sealed k) (r : Registry)
    (outer : List Handler) (entry : LogEntry) :
    r.reached outer l entry = if r.passes l entry.level then l.handlers else [] := by
  unfold reached
  split
  · rename_i hpasses
    have hle := le_of_passes hpasses
    have hlevel := hl.level
    obtain ⟨h, hhandlers, hh⟩ := hl.handler
    rw [climb_sealed hl, hhandlers]
    exact List.filter_eq_self.mpr fun h' hh' => by
      cases List.mem_singleton.mp hh'
      simp only [decide_eq_true_eq]
      omega
  · rfl

end Registry

/-- After any calls every logger has one handler and keeps the level of the last call that set one,
as does its handler; loggers made later get that level too. -/
theorem loggers_keep_last_level (calls : List LogCall) :
    let r := Registry.loaded.after calls
    let level := Registry.loaded.lastLevel (.int Level.warning) calls
    r.default = level ∧
      (∃ k, Level.check level = .ok k ∧
        ∀ l ∈ r.loggers, l.propagate = false ∧ l.level = k ∧ ∃ h, l.handlers = [h] ∧ h.level = k) ∧
      (∀ call, (∃ a, (LogCall.perform r call).2 = .ok a) ↔ call.Accepted) ∧
      (∀ call f, (LogCall.perform r call).2 = .error f → (call.perform r).1 = r) ∧
      (∀ call l, (LogCall.perform r call).2 = .ok (some l) → l ∈ (call.perform r).1.loggers) ∧
      ∀ l ∈ r.loggers, ∀ outer entry,
        r.reached outer l entry = (if r.passes l entry.level then l.handlers else []) ∧
          (r.reached outer l entry).length ≤ 1 := by
  intro r level
  have h : r.Uniform level := Registry.uniform_loaded.after calls
  obtain ⟨k, hk, hloggers⟩ := h.keep
  have hkept (call : LogCall) := LogCall.perform_kept h call
  refine ⟨h.default, ⟨k, hk, fun l hl => ?_⟩, fun call => (hkept call).answered,
    fun call => (hkept call).refused, fun call => (hkept call).listed, fun l hl => ?_⟩
  · exact ⟨(hloggers l hl).propagate, (hloggers l hl).level, (hloggers l hl).handler⟩
  · intro outer entry
    have hreached := Registry.reached_sealed (hloggers l hl) r outer entry
    obtain ⟨h, hhandlers, -⟩ := (hloggers l hl).handler
    refine ⟨hreached, ?_⟩
    rw [hreached, hhandlers]
    split <;> simp

def refusedLogCalls : List LogCall :=
  [.get .nothing, .setLevel (.text "debug"), .configure (.text "info") (.text "no field") "stderr",
    .setLevel (.text "basic_format"), .get (.bytes []), .get (.text "solver")]

theorem loggers_keep_last_level_among_refusals :
    let r := Registry.loaded.after refusedLogCalls
    r.loggers.map (·.name) = ["lbfgsb_rc.driver", "lbfgsb_rc", "lbfgsb_rc.solver"] ∧
      ∀ l ∈ r.loggers, l.level = Level.debug ∧ l.handlers.map (·.level) = [Level.debug] := by
  have hlast : (Level.check (Registry.loaded.lastLevel (.int Level.warning) refusedLogCalls)).toOption
      = some Level.debug := by decide +kernel
  intro r
  refine ⟨by decide +kernel, fun l hl => ?_⟩
  obtain ⟨-, ⟨k, hk, hloggers⟩, -⟩ := loggers_keep_last_level refusedLogCalls
  obtain ⟨-, hlevel, h, hhandlers, hh⟩ := hloggers l hl
  rw [hk] at hlast
  cases hlast
  exact ⟨hlevel, by rw [hhandlers, List.map_singleton, hh]⟩

end BoxMin
