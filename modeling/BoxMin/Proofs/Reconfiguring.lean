import BoxMin.Proofs.Registry

set_option autoImplicit false

namespace BoxMin

namespace Logger

def withLevel (k : Int) (l : Logger) : Logger :=
  { l with level := k, handlers := l.handlers.map ({ · with level := k }) }

def withHandler (k : Int) (template stream : String) (l : Logger) : Logger :=
  { l with level := k, handlers := [⟨k, template, stream⟩] }

end Logger

inductive Reconfiguration where
  | level (level : Value)
  | outputs (level format : Value) (stream : String)

namespace Reconfiguration

def call : Reconfiguration → LogCall
  | level v => .setLevel v
  | outputs v format stream => .configure v format stream

def wanted : Reconfiguration → Value
  | level v | outputs v _ _ => Level.coerce v

/-- What becomes of each logger, unless the template or the level cannot be used. -/
def plan : Reconfiguration → Except Fault (Logger → Logger)
  | level v => (Level.check (Level.coerce v)).map Logger.withLevel
  | outputs v format stream =>
    match Template.ofValue format with
    | .error f => .error f
    | .ok template =>
      (Level.check (Level.coerce v)).map fun k => Logger.withHandler k template stream

end Reconfiguration

def Registry.carryOut (r : Registry) (level : Value) :
    Except Fault (Logger → Logger) → Registry × Except Fault (Option Logger)
  | .ok change => (⟨level, r.loggers.map change⟩, .ok none)
  | .error f => (r, .error f)

section Calls

variable {r : Registry} {current : Value}

theorem Registry.changeAll_eq (h : r.Uniform current) (level : Value)
    {change : Logger → Logger × Except Fault Unit} {changed : Int → Logger → Logger}
    (hok : ∀ k, Level.check level = .ok k → ∀ l, change l = (changed k l, .ok ()))
    (herror : ∀ f, Level.check level = .error f → ∀ l, change l = (l, .error f)) :
    ((r.changeAll level change).1, (r.changeAll level change).2.map fun _ => none) =
      r.carryOut level ((Level.check level).map changed) := by
  cases hk : Level.check level with
  | error f =>
    rw [Registry.changeAll_error (herror f hk) h.nonempty]
    rfl
  | ok k =>
    rw [Registry.changeAll_ok (hok k hk)]
    rfl

theorem Reconfiguration.perform_eq (h : r.Uniform current) (c : Reconfiguration) :
    c.call.perform r = r.carryOut c.wanted c.plan := by
  cases c with
  | level v =>
    exact Registry.changeAll_eq h _ (fun _ hk => Logger.setLevel_ok hk)
      (fun _ hf => Logger.setLevel_error hf)
  | outputs v format stream =>
    simp only [call, LogCall.perform, Registry.configure, plan]
    cases Template.ofValue format with
    | error f => rfl
    | ok template =>
      exact Registry.changeAll_eq h _ (fun _ hk => Logger.setHandler_ok hk template stream)
        (fun _ hf => Logger.setHandler_error hf template stream)

theorem Registry.carryOut_error {level : Value} {plan : Except Fault (Logger → Logger)} {f : Fault} :
    (r.carryOut level plan).2 = .error f ↔ plan = .error f := by
  cases plan <;> simp [carryOut]

theorem Registry.carryOut_unchanged {level : Value} {plan : Except Fault (Logger → Logger)}
    {f : Fault} (h : (r.carryOut level plan).2 = .error f) : (r.carryOut level plan).1 = r := by
  rw [carryOut_error.mp h]
  rfl

end Calls

/-- After any calls a level or a configuration is given to every logger and to those to come, or it
is refused and nothing has changed. -/
theorem reconfigured_wholly_or_not_at_all (calls : List LogCall) (c : Reconfiguration) :
    let r := Registry.loaded.after calls
    c.call.perform r = r.carryOut c.wanted c.plan ∧
      (∀ f, (c.call.perform r).2 = .error f ↔ c.plan = .error f) ∧
      ∀ f, (c.call.perform r).2 = .error f → (c.call.perform r).1 = r := by
  intro r
  have hperform : c.call.perform r = r.carryOut c.wanted c.plan :=
    Reconfiguration.perform_eq (Registry.uniform_loaded.after calls) c
  rw [hperform]
  exact ⟨rfl, fun f => Registry.carryOut_error, fun f => Registry.carryOut_unchanged⟩

def configuredLogCalls : List LogCall :=
  [.get (.text "solver"), .configure (.text "debug") (.text "%(message)s") "a",
    .get (.text "history")]

/-- A level that is none leaves three loggers with two kinds of handlers as they are. -/
theorem reconfigured_not_at_all_by_fraction :
    let r := Registry.loaded.after configuredLogCalls
    let c := Reconfiguration.outputs (.float 2.5) (.text "%(name)s") "b"
    (c.call.perform r).2 = .error .wrongKind ∧ (c.call.perform r).1 = r ∧
      r.loggers.map (fun l => (l.level, l.handlers.map (·.template))) =
        [(10, ["%(message)s"]), (10, ["%(message)s"]), (10, [Template.default])] := by
  obtain ⟨-, hrefused, hsame⟩ := reconfigured_wholly_or_not_at_all configuredLogCalls
    (.outputs (.float 2.5) (.text "%(name)s") "b")
  have hplan : (Reconfiguration.outputs (.float 2.5) (.text "%(name)s") "b").plan =
      .error .wrongKind := by
    rfl
  have herror := (hrefused .wrongKind).mpr hplan
  exact ⟨herror, hsame _ herror, by decide +kernel⟩

namespace Level

/-- The level that a text names in letters of either case. A text that names none stands for a
warning. -/
def standard (s : String) : Int := (spelled.lookup (capitalized s)).getD warning

/-- Why a text is no level: its capitals are kept for another text, or for a table. -/
def refusal? (s : String) : Option Fault :=
  if capitalized s = "BASIC_FORMAT" then some .unfit
  else if capitalized s = "_STYLES" then some .wrongKind
  else none

theorem named_eq : named = spelled.map (fun e => (e.1, Value.int e.2)) ++
    [("BASIC_FORMAT", .text "%(levelname)s:%(name)s:%(message)s"), ("_STYLES", .mapping [])] := rfl

theorem lookup_levels (name : String) (es : List (String × Int)) :
    (es.map fun e => (e.1, Value.int e.2)).lookup name = (es.lookup name).map Value.int := by
  induction es with
  | nil => rfl
  | cons e es ih =>
    rw [List.map_cons, List.lookup_cons, List.lookup_cons, ih]
    cases name == e.1 <;> rfl

theorem coerce_text_of_not_refused {s : String} (h : refusal? s = none) :
    coerce (.text s) = .int (standard s) := by
  unfold refusal? at h
  split at h
  · cases h
  · split at h
    · cases h
    · rename_i hformat hstyles
      have hother : List.lookup (capitalized s) [("BASIC_FORMAT",
          .text "%(levelname)s:%(name)s:%(message)s"), ("_STYLES", Value.mapping [])] = none := by
        simp only [List.lookup_cons, beq_false_of_ne hformat, beq_false_of_ne hstyles,
          List.lookup_nil]
      simp only [coerce, named_eq, List.lookup_append, lookup_levels, hother, standard]
      cases spelled.lookup (capitalized s) <;> rfl

theorem check_text (s : String) : check (coerce (.text s)) = match refusal? s with
    | some f => .error f
    | none => .ok (standard s) := by
  cases h : refusal? s with
  | none =>
    rw [coerce_text_of_not_refused h]
    rfl
  | some f =>
    unfold refusal? at h
    split at h
    case isTrue hformat =>
      cases h
      rw [coerce, hformat]
      rfl
    case isFalse =>
      split at h
      case isTrue hstyles =>
        cases h
        rw [coerce, hstyles]
        rfl
      case isFalse => cases h

end Level

def Logger.AtLevel (k : Int) (l : Logger) : Prop := l.level = k ∧ ∀ h ∈ l.handlers, h.level = k

/-- One level for the loggers there are, for all their handlers and for the loggers to come. -/
structure Registry.Installed (k : Int) (r : Registry) : Prop where
  default : r.default = .int k
  loggers : ∀ l ∈ r.loggers, l.AtLevel k

section Texts

variable {s : String} {format : Value} {stream template : String}

def Reconfiguration.ofText (s : String) (format : Value) (stream : String) :
    List Reconfiguration :=
  [.level (.text s), .outputs (.text s) format stream]

theorem Reconfiguration.plan_ofText (hformat : Template.ofValue format = .ok template)
    {c : Reconfiguration} (hc : c ∈ ofText s format stream) :
    c.wanted = Level.coerce (.text s) ∧ ∃ change : Int → Logger → Logger,
      c.plan = (Level.check (Level.coerce (.text s))).map change ∧
        ∀ k l, (change k l).name = l.name ∧ (change k l).AtLevel k := by
  simp only [ofText, List.mem_cons, List.not_mem_nil, or_false] at hc
  obtain rfl | rfl := hc
  · exact ⟨rfl, Logger.withLevel, rfl, fun k l => ⟨rfl, by simp [Logger.AtLevel, Logger.withLevel]⟩⟩
  · refine ⟨rfl, fun k => Logger.withHandler k template stream, ?_, fun k l => ⟨rfl, ?_⟩⟩
    · simp only [plan, hformat]
    · simp [Logger.AtLevel, Logger.withHandler]

/-- After any calls a text is installed as the level it names, or as a warning if it names none,
unless its capitals are kept for something else. Then it is refused. -/
theorem level_text_installed_iff (calls : List LogCall) (s : String) (format : Value)
    (stream template : String) (hformat : Template.ofValue format = .ok template) :
    let r := Registry.loaded.after calls
    ∀ c ∈ Reconfiguration.ofText s format stream,
      (Level.refusal? s = none ↔ ∃ r', c.call.perform r = (r', .ok none) ∧
        r'.Installed (Level.standard s) ∧ r'.loggers.map (·.name) = r.loggers.map (·.name)) ∧
      ∀ f, Level.refusal? s = some f → c.call.perform r = (r, .error f) := by
  intro r c hc
  obtain ⟨hwanted, change, hplan, hchange⟩ := Reconfiguration.plan_ofText hformat hc
  have hperform : c.call.perform r = r.carryOut c.wanted c.plan :=
    Reconfiguration.perform_eq (Registry.uniform_loaded.after calls) c
  rw [hplan, hwanted, Level.check_text] at hperform
  cases h : Level.refusal? s with
  | some f =>
    rw [h] at hperform
    refine ⟨⟨nofun, ?_⟩, fun f' hf => ?_⟩
    · rintro ⟨r', hok, -⟩
      rw [hperform] at hok
      cases hok
    · cases hf
      exact hperform
  | none =>
    rw [h, Level.coerce_text_of_not_refused h] at hperform
    refine ⟨iff_of_true rfl ⟨_, hperform, ⟨rfl, fun l hl => ?_⟩, ?_⟩, nofun⟩
    · obtain ⟨l₀, -, rfl⟩ := List.mem_map.mp hl
      exact (hchange _ l₀).2
    · simp [hchange, Function.comp_def]

theorem level_texts_installed_after_refusals :
    let r := Registry.loaded.after refusedLogCalls
    Template.ofValue .nothing = .ok Template.default ∧
      ∀ e ∈ [("fatal", 50), ("Warn", 30), ("notset", 0), ("", 30), ("level 5", 30)],
        ∃ r', (LogCall.setLevel (.text e.1)).perform r = (r', .ok none) ∧ r'.Installed e.2 := by
  have hformat : Template.ofValue .nothing = .ok Template.default := by rfl
  refine ⟨hformat, fun e he => ?_⟩
  have hstandard : ∀ e ∈ [("fatal", 50), ("Warn", 30), ("notset", 0), ("", 30), ("level 5", 30)],
      Level.refusal? e.1 = none ∧ Level.standard e.1 = e.2 := by
    decide +kernel
  obtain ⟨hnone, hlevel⟩ := hstandard e he
  obtain ⟨hiff, -⟩ := level_text_installed_iff refusedLogCalls e.1 .nothing "stderr" _ hformat
    (.level (.text e.1)) (List.mem_cons_self)
  obtain ⟨r', hperform, hinstalled, -⟩ := hiff.mp hnone
  exact ⟨r', hperform, hlevel ▸ hinstalled⟩

/-- Two texts that name no level are not installed as a warning but refused. -/
theorem kept_names_refused :
    ((LogCall.setLevel (.text "basic_format")).perform Registry.loaded).2 = .error .unfit ∧
      ((LogCall.configure (.text "_Styles") .nothing "stderr").perform Registry.loaded).2 =
        .error .wrongKind := by
  exact ⟨rfl, rfl⟩

end Texts

end BoxMin
