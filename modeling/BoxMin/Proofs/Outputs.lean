import BoxMin.Proofs.Registry

/-!
What handlers write, and where. A configuration that is not refused reaches the handlers of all
loggers there are, and no later one: a logger made after it writes by the default template to the
default stream. So loggers share the output configured last unless one of them was made after that.
-/

set_option autoImplicit false

namespace BoxMin

structure Output where
  template : String
  stream : String
  deriving DecidableEq, Repr

def Output.default : Output := ⟨Template.default, "stderr"⟩

def Handler.output (h : Handler) : Output := ⟨h.template, h.stream⟩

def Logger.outputs (l : Logger) : List Output := l.handlers.map Handler.output

namespace LogCall

/-- What a call gives the handlers: nothing if it does not configure them, or is refused. -/
def output? : LogCall → Option Output
  | get _ | setLevel _ => none
  | configure level format stream =>
    match Template.ofValue format, Level.check (Level.coerce level) with
    | .ok template, .ok _ => some ⟨template, stream⟩
    | _, _ => none

def asksFor (name : String) : LogCall → Bool
  | get v => match Registry.nameOf v with
    | .ok s => s = name
    | .error _ => false
  | setLevel _ | configure _ _ _ => false

theorem output?_isSome_iff (level format : Value) (stream : String) :
    (configure level format stream).output?.isSome = true ↔
      (configure level format stream).Accepted := by
  simp only [output?, Accepted]
  cases Template.ofValue format with
  | error f => simp
  | ok template => cases Level.check (Level.coerce level) <;> simp

end LogCall

def lastOutput? : List LogCall → Option Output
  | [] => none
  | call :: calls => (lastOutput? calls).or call.output?

def lastOutput (calls : List LogCall) : Output := (lastOutput? calls).getD .default

def callsSince (name : String) : List LogCall → List LogCall
  | [] => []
  | call :: calls => if call.asksFor name then calls else callsSince name calls

section Views

variable {r : Registry} {current : Value} {call : LogCall} {calls : List LogCall} {name : String}

def Registry.outputs (r : Registry) : List (String × List Output) :=
  r.loggers.map fun l => (l.name, l.outputs)

def LogCall.track (call : LogCall) (seen : List (String × List Output)) :
    List (String × List Output) :=
  match call with
  | get v => match Registry.nameOf v with
    | .ok s => if s ∈ seen.map Prod.fst then seen else seen ++ [(s, [.default])]
    | .error _ => seen
  | setLevel _ => seen
  | call => match call.output? with
    | some o => seen.map fun p => (p.1, [o])
    | none => seen

theorem Logger.outputs_setLevel {k : Int} (l : Logger) :
    Logger.outputs { l with level := k, handlers := l.handlers.map ({ · with level := k }) } =
      l.outputs := by
  simp [Logger.outputs, Handler.output, Function.comp_def]

theorem Registry.mem_names_iff (r : Registry) (name : String) :
    name ∈ r.outputs.map Prod.fst ↔ (r.find? name).isSome = true := by
  simp [Registry.outputs, Registry.find?]

theorem LogCall.track_get (h : r.Uniform current) (v : Value) :
    ((get v).perform r).1.outputs = (get v).track r.outputs := by
  simp only [perform, Registry.get, track]
  cases hname : Registry.nameOf v with
  | error f => rfl
  | ok s =>
    have hnames := r.mem_names_iff s
    obtain ⟨k, hk, -⟩ := h.keep
    cases hfind : r.find? s with
    | some l =>
      rw [hfind] at hnames
      simp only [Registry.getNamed, hfind]
      rw [if_pos (hnames.mpr rfl)]
    | none =>
      rw [hfind] at hnames
      have hequip := Logger.equip_ok (h.default.symm ▸ hk) s
      simp only [Registry.getNamed, hfind, hequip]
      rw [if_neg (by simp [hnames])]
      simp [Registry.outputs, Logger.outputs, Handler.output, Output.default]

theorem LogCall.track_setLevel (h : r.Uniform current) (level : Value) :
    ((setLevel level).perform r).1.outputs = r.outputs := by
  simp only [perform, Registry.setLevel]
  cases hk : Level.check (Level.coerce level) with
  | error f => rw [Registry.changeAll_error (Logger.setLevel_error hk) h.nonempty]
  | ok k =>
    rw [Registry.changeAll_ok (Logger.setLevel_ok hk)]
    simp [Registry.outputs, Logger.outputs_setLevel, Function.comp_def]

theorem LogCall.track_configure (h : r.Uniform current) (level format : Value) (stream : String) :
    ((configure level format stream).perform r).1.outputs =
      (configure level format stream).track r.outputs := by
  simp only [perform, Registry.configure, track, output?]
  cases Template.ofValue format with
  | error f => rfl
  | ok template =>
    cases hk : Level.check (Level.coerce level) with
    | error f =>
      simp only [Registry.changeAll_error (Logger.setHandler_error hk template stream) h.nonempty]
    | ok k =>
      simp only [Registry.changeAll_ok (Logger.setHandler_ok hk template stream)]
      simp [Registry.outputs, Logger.outputs, Handler.output, Function.comp_def]

theorem LogCall.perform_outputs (h : r.Uniform current) (call : LogCall) :
    (call.perform r).1.outputs = call.track r.outputs := by
  cases call with
  | get v => exact track_get h v
  | setLevel level => exact track_setLevel h level
  | configure level format stream => exact track_configure h level format stream

theorem Registry.Uniform.outputs_after (h : r.Uniform current) (calls : List LogCall) :
    (r.after calls).outputs = calls.foldl (fun seen call => call.track seen) r.outputs := by
  induction calls generalizing r current with
  | nil => rfl
  | cons call calls ih =>
    rw [Registry.after, ih (LogCall.perform_kept h call).uniform, LogCall.perform_outputs h call,
      List.foldl_cons]

end Views

section Histories

variable {calls : List LogCall} {name : String} {o : Output}

theorem lastOutput?_of_callsSince (h : lastOutput? (callsSince name calls) = some o) :
    lastOutput? calls = some o := by
  induction calls with
  | nil => cases h
  | cons call calls ih =>
    simp only [callsSince] at h
    simp only [lastOutput?]
    split at h
    · rw [h, Option.some_or]
    · rw [ih h, Option.some_or]

theorem track_configured {call : LogCall} (h : call.output? = some o)
    (seen : List (String × List Output)) :
    call.track seen = seen.map fun p => (p.1, [o]) := by
  cases call with
  | get | setLevel => cases h
  | configure => simp only [LogCall.track, h]

theorem track_unconfigured {call : LogCall} (h : call.output? = none)
    (seen : List (String × List Output)) :
    call.track seen = seen ∧ (∀ s, call.asksFor s = true → s ∈ seen.map Prod.fst) ∨
      ∃ s, s ∉ seen.map Prod.fst ∧ (∀ t, call.asksFor t = decide (s = t)) ∧
        call.track seen = seen ++ [(s, [.default])] := by
  cases call with
  | setLevel => exact .inl ⟨rfl, fun _ hasks => by cases hasks⟩
  | configure =>
    refine .inl ⟨?_, fun _ hasks => by cases hasks⟩
    simp only [LogCall.track, h]
  | get v =>
    cases hname : Registry.nameOf v with
    | error f =>
      refine .inl ⟨?_, fun _ hasks => ?_⟩
      · simp only [LogCall.track, hname]
      · simp [LogCall.asksFor, hname] at hasks
    | ok s =>
      by_cases hmem : s ∈ seen.map Prod.fst
      · refine .inl ⟨?_, fun t hasks => ?_⟩
        · simp only [LogCall.track, hname]
          rw [if_pos hmem]
        · obtain rfl : s = t := by simpa [LogCall.asksFor, hname] using hasks
          exact hmem
      · refine .inr ⟨s, hmem, fun t => ?_, ?_⟩
        · simp [LogCall.asksFor, hname]
        · simp only [LogCall.track, hname]
          rw [if_neg hmem]

/-- A logger seen before the calls has the output they give last, if they give any; one made by them
has what they give after that, or the default output. -/
theorem mem_trackAll {seen : List (String × List Output)} {os : List Output}
    (h : (name, os) ∈ calls.foldl (fun seen call => call.track seen) seen) :
    (∃ os₀, (name, os₀) ∈ seen ∧ os = ((lastOutput? calls).map ([·])).getD os₀) ∨
      name ∉ seen.map Prod.fst ∧ os = [lastOutput (callsSince name calls)] := by
  induction calls generalizing seen with
  | nil => exact .inl ⟨os, h, rfl⟩
  | cons call calls ih =>
    rw [List.foldl_cons] at h
    cases hoken : call.output? with
    | some o =>
      have hnames : (call.track seen).map Prod.fst = seen.map Prod.fst := by
        simp [track_configured hoken, Function.comp_def]
      have hasks : call.asksFor name = false := by
        cases call with
        | get | setLevel => cases hoken
        | configure => rfl
      rcases ih h with ⟨os₁, hmem, hos⟩ | ⟨hnew, hos⟩
      · rw [track_configured hoken] at hmem
        obtain ⟨⟨_, os₀⟩, hmem₀, hpair⟩ := List.mem_map.mp hmem
        cases hpair
        refine .inl ⟨os₀, hmem₀, ?_⟩
        rw [hos, lastOutput?, hoken]
        cases lastOutput? calls <;> rfl
      · exact .inr ⟨hnames ▸ hnew, by simpa [callsSince, hasks] using hos⟩
    | none =>
      have hlast : lastOutput? (call :: calls) = lastOutput? calls := by
        rw [lastOutput?, hoken, Option.or_none]
      rw [hlast]
      rcases track_unconfigured hoken seen with ⟨hsame, hknown⟩ | ⟨s, hs, hasks, hmade⟩
      · rcases ih h with ⟨os₀, hmem, hos⟩ | ⟨hnew, hos⟩
        · exact .inl ⟨os₀, hsame ▸ hmem, hos⟩
        · rw [hsame] at hnew
          have hasks : call.asksFor name = false := by
            simpa using fun hasks => hnew (hknown name hasks)
          exact .inr ⟨hnew, by simpa [callsSince, hasks] using hos⟩
      · rw [hmade] at h
        rcases ih h with ⟨os₀, hmem, hos⟩ | ⟨hnew, hos⟩
        · rcases List.mem_append.mp hmem with hmem | hmem
          · exact .inl ⟨os₀, hmem, hos⟩
          · -- this call makes the logger, so the calls behind it are those since
            obtain ⟨rfl, rfl⟩ : name = s ∧ os₀ = [.default] := by simpa using hmem
            refine .inr ⟨hs, ?_⟩
            rw [callsSince, hasks, if_pos (by simp), hos, lastOutput]
            cases lastOutput? calls <;> rfl
        · rw [List.map_append, List.mem_append, not_or] at hnew
          have hne : s ≠ name := fun heq => hnew.2 (by simp [heq])
          exact .inr ⟨hnew.1, by simpa [callsSince, hasks, hne] using hos⟩

end Histories

def loadingCall : LogCall := .get (.text "driver")

theorem outputs_loaded : Registry.loaded.outputs = [("lbfgsb_rc.driver", [.default])] := by
  decide +kernel

theorem asksFor_loadingCall (name : String) :
    loadingCall.asksFor name = decide ("lbfgsb_rc.driver" = name) := by
  have hname : Registry.qualify "driver" = "lbfgsb_rc.driver" := by decide +kernel
  simp only [loadingCall, LogCall.asksFor, Registry.nameOf, hname]

theorem outputs_of_mem {calls : List LogCall} {l : Logger}
    (h : l ∈ (Registry.loaded.after calls).loggers) :
    l.outputs = [lastOutput (callsSince l.name (loadingCall :: calls))] := by
  have hmem : (l.name, l.outputs) ∈ (Registry.loaded.after calls).outputs :=
    List.mem_map.mpr ⟨l, h, rfl⟩
  rw [Registry.uniform_loaded.outputs_after, outputs_loaded] at hmem
  rw [callsSince, asksFor_loadingCall]
  rcases mem_trackAll hmem with ⟨os₀, hmem, hos⟩ | ⟨hnew, hos⟩
  · obtain ⟨hname, rfl⟩ : l.name = "lbfgsb_rc.driver" ∧ os₀ = [.default] := by simpa using hmem
    rw [hname, if_pos (by simp), hos, lastOutput]
    cases lastOutput? calls <;> rfl
  · have hne : "lbfgsb_rc.driver" ≠ l.name := by simpa [eq_comm] using hnew
    rw [if_neg (by simpa using hne), hos]

/-- After any calls a logger has one handler, and the output configured last since it was made. The
loggers all have the output configured last exactly if that is the default one, or none of them was
made after it. -/
theorem outputs_shared_iff (calls : List LogCall) :
    let r := Registry.loaded.after calls
    let since := fun l : Logger => callsSince l.name (loadingCall :: calls)
    (∀ l ∈ r.loggers, ∃ h, l.handlers = [h] ∧ h.output = lastOutput (since l)) ∧
      (∀ level format stream,
        (∃ a, (LogCall.perform r (.configure level format stream)).2 = .ok a) ↔
          (LogCall.configure level format stream).output?.isSome = true) ∧
      ((∀ l ∈ r.loggers, ∀ h ∈ l.handlers, h.output = lastOutput calls) ↔
        lastOutput calls = .default ∨ ∀ l ∈ r.loggers, (lastOutput? (since l)).isSome = true) := by
  intro r since
  have huniform := Registry.uniform_loaded.after calls
  have hhandler : ∀ l ∈ r.loggers, ∃ h, l.handlers = [h] ∧ h.output = lastOutput (since l) := by
    intro l hl
    obtain ⟨k, -, hloggers⟩ := huniform.keep
    obtain ⟨h, hhandlers, -⟩ := (hloggers l hl).handler
    have houtputs := outputs_of_mem hl
    rw [Logger.outputs, hhandlers, List.map_singleton] at houtputs
    exact ⟨h, hhandlers, List.singleton_inj.mp houtputs⟩
  refine ⟨hhandler, fun level format stream => ?_, ?_⟩
  · rw [LogCall.output?_isSome_iff]
    exact (LogCall.perform_kept huniform _).answered
  · -- a logger that none of the calls since configures is left with the default output
    have hsince (l : Logger) (o : Output) (ho : lastOutput? (since l) = some o) :
        lastOutput? calls = some o := by
      simp only [since, callsSince] at ho
      split at ho
      · exact ho
      · exact lastOutput?_of_callsSince ho
    constructor
    · intro hall
      by_cases hdefault : lastOutput calls = .default
      · exact .inl hdefault
      · refine .inr fun l hl => ?_
        obtain ⟨h, hhandlers, houtput⟩ := hhandler l hl
        have hlast := hall l hl h (by simp [hhandlers])
        cases hs : lastOutput? (since l) with
        | some o => rfl
        | none =>
          rw [lastOutput, hs, Option.getD_none] at houtput
          exact absurd (hlast.symm.trans houtput) hdefault
    · intro hcond l hl h hmem
      obtain ⟨h', hhandlers, houtput⟩ := hhandler l hl
      obtain rfl : h = h' := by simpa [hhandlers] using hmem
      rw [houtput, lastOutput]
      cases hs : lastOutput? (since l) with
      | some o => rw [lastOutput, hsince l o hs]
      | none =>
        rcases hcond with hdefault | hsome
        · rw [hdefault, Option.getD_none]
        · have hl := hsome l hl
          simp [hs] at hl

def lateLogCalls : List LogCall :=
  [.configure (.text "warning") (.text "%(message)s") "a", .get (.text "solver")]

/-- The late logger does not have the output configured last, which the other one has. -/
theorem late_logger_output_differs :
    let r := Registry.loaded.after lateLogCalls
    lastOutput lateLogCalls = ⟨"%(message)s", "a"⟩ ∧
      r.outputs = [("lbfgsb_rc.driver", [⟨"%(message)s", "a"⟩]), ("lbfgsb_rc.solver", [.default])] ∧
      ¬ ∀ l ∈ r.loggers, ∀ h ∈ l.handlers, h.output = lastOutput lateLogCalls := by
  decide +kernel

end BoxMin
