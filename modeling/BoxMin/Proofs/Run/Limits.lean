import BoxMin.Proofs.Extent
import BoxMin.Proofs.Run.Counting
import BoxMin.Proofs.Run.Journal

/-!
Runs that differ in a limit alone. A limit is looked at to stop a run and for nothing else, so a run
with a higher one makes the same calls first, and no others unless the lower one was met. The limit
on iterates is also the number of rows of the record, for which there must be room.
-/

set_option autoImplicit false

namespace BoxMin

variable {σ : Type} {n : Nat} {c : Client σ} {v : Solver σ} {le : σ → σ → Prop}

theorem anything_ascending (c : Client σ) (v : Solver σ) : Ascending c v fun _ _ => True where
  refl _ := trivial
  trans _ _ := trivial
  call _ _ := trivial
  step _ _ _ := trivial

/-- Arguments that pass the checks alike, the second ones with a higher limit, or fail them alike.
The status is that of a run which meets the limit. -/
inductive Raises : Status → Except Error Checked → Except Error Checked → Prop where
  | refused (cap : Status) (e : Error) : Raises cap (.error e) (.error e)
  | calls (a : Checked) (k : Nat) (hk : a.options.maxTotalIts ≤ k) :
      Raises .maxTotalIter (.ok a) (.ok { a with options.maxTotalIts := k })
  | iterates (a : Checked) (k : Nat) (hk : a.options.maxIts ≤ k)
      (hroom : ∃ record, Options.history { a.options with maxIts := k } = .ok record) :
      Raises .maxIter (.ok a) (.ok { a with options.maxIts := k })

def Problem.upTo (k : Nat) (p : Problem) : Problem := { p with settings.iterationLimit := k }

namespace RunState

/-- The first run ends at its limit, and all that it made is there in the end of the second one. -/
def CutShort (le : σ → σ → Prop) (cap : Status)
    (first second : RunState σ n × Except Error Status) : Prop :=
  first.2 = .ok cap ∧ Ascending.Before le first.1 second.1

section Calls

variable {p : Problem}

theorem advance_callLimit (limit : Except Fault Number) (s : RunState σ n) :
    s.advance c v { p with settings.callLimit := limit } = s.advance c v p := rfl

theorem loop_more (hle : Ascending c v le) (limit : Except Fault Number) (s : RunState σ n)
    (k j : Nat) (l l' : Int) :
    loop c v { p with settings.callLimit := limit } l' (k + j) s = loop c v p l k s ∨
      CutShort le .maxTotalIter (loop c v p l k s)
        (loop c v { p with settings.callLimit := limit } l' (k + j) s) := by
  induction k generalizing s with
  | zero =>
    have hgrows : Ascending.Before le s _ :=
      hle.loop (p := { p with settings.callLimit := limit }) l' (0 + j) s
    exact .inr ⟨rfl, hgrows⟩
  | succ k ih =>
    rw [Nat.succ_add]
    unfold loop
    rw [advance_callLimit]
    rcases s.advance c v p with ⟨t, _ | status | e⟩
    · exact ih t
    · exact .inl rfl
    · exact .inl rfl

end Calls

section Iterates

variable {p : Problem} {o : Options} {s t : RunState σ n} {k : Nat}

def Roomier (k : Nat) (s t : RunState σ n) : Prop := Like Eq Eq (Resized fun _ => k) s t

theorem Roomier.before (hle : Ascending c v le) (h : Roomier k s t) : Ascending.Before le s t := by
  obtain ⟨m, a, b, rfl, rfl, -, rfl⟩ := h
  exact hle.before_refl s

/-- Both computations come to the same, or the first one ends at its limit and the second one goes
on from there. -/
def MatchesToLimit (le : σ → σ → Prop) (k : Nat) (r₁ r₂ : RunState σ n × Progress) : Prop :=
  Matches Eq Eq (Resized fun _ => k) r₁ r₂ ∨
    r₁.2 = .ended .maxIter ∧ Ascending.Before le r₁.1 r₂.1

theorem checkLimit_toLimit (hle : Ascending c v le) (hk : p.settings.iterationLimit ≤ k)
    (h : Roomier k s t) : MatchesToLimit le k (s.checkLimit p) (t.checkLimit (p.upTo k)) := by
  have hbefore : Ascending.Before le s t := h.before hle
  have houter : t.outer = s.outer := by
    obtain ⟨m, a, b, rfl, -, -, -⟩ := h
    rfl
  have hlimit : (p.upTo k).settings.iterationLimit = k := rfl
  unfold checkLimit
  rw [houter, hlimit]
  by_cases hl : p.settings.iterationLimit ≤ s.outer
  · -- the other run may end here too, if its limit is the same
    rw [if_pos hl]
    refine .inr ⟨rfl, ?_⟩
    split <;> exact hbefore
  · rw [if_neg hl, if_neg (by omega)]
    exact .inl ⟨_, _, _, rfl, rfl, h⟩

theorem acceptIterate_toLimit (hle : Ascending c v le) (hk : p.settings.iterationLimit ≤ k)
    (hroom : s.history.Admits k) (h : Roomier k s t) :
    MatchesToLimit le k (s.acceptIterate c p) (t.acceptIterate c (p.upTo k)) := by
  obtain ⟨u, w, r, hu, hw, hnoted⟩ := note_matches (p := p) c.simulates_self hroom h
  have hw : t.note c (p.upTo k) = (w, r) := hw
  rw [acceptIterate_eq, acceptIterate_eq, hu, hw]
  cases r with
  | error e => exact .inl ⟨u, w, _, rfl, rfl, hnoted⟩
  | ok ok =>
    obtain ⟨u', w', r, hu', hw', hchecked⟩ := checkStop_matches (p := p) hnoted
    have hw' : w.checkStop (p.upTo k) = (w', r) := hw'
    simp only [hu', hw']
    cases r with
    | running => exact checkLimit_toLimit hle hk hchecked
    | ended status => exact .inl ⟨u', w', _, rfl, rfl, hchecked⟩
    | failed e => exact .inl ⟨u', w', _, rfl, rfl, hchecked⟩

theorem advance_toLimit (hle : Ascending c v le) (hk : p.settings.iterationLimit ≤ k)
    (hroom : s.history.Admits k) (h : Roomier k s t) :
    MatchesToLimit le k (s.advance c v p) (t.advance c v (p.upTo k)) := by
  obtain ⟨u, w, r, hu, hw, htold⟩ := callSolver_matches (p := p) v.simulates_self h
  have hw : t.callSolver v (p.upTo k) = (w, r) := hw
  have hhistory : (s.callSolver v p).1.history = s.history := told_history
  rw [hu] at hhistory
  have htask : w.task = u.task := by
    obtain ⟨m, a, b, rfl, -, -, -⟩ := htold
    rfl
  unfold advance
  rw [hu, hw]
  cases r with
  | error e => exact .inl ⟨u, w, _, rfl, rfl, htold⟩
  | ok ok =>
    dsimp only
    unfold answer
    rw [htask]
    split
    · exact .inl (answerRequest_matches (p := p) (fun g _ => c.simulates_self g) htold)
    · exact acceptIterate_toLimit hle hk (hhistory ▸ hroom) htold
    · exact .inl ⟨u, w, _, rfl, rfl, htold⟩

theorem loop_toLimit (hle : Ascending c v le) (hlimit : p.settings.iterationLimit = o.maxIts)
    (hk : o.maxIts ≤ k) {past : List (RunState σ n)} (htally : Tally v p o past s)
    (hroom : s.outer < o.maxIts) (h : Roomier k s t) (limit : Int) (left : Nat) :
    Matches Eq Eq (Resized fun _ => k) (loop c v p limit left s)
        (loop c v (p.upTo k) limit left t) ∨
      CutShort le .maxIter (loop c v p limit left s) (loop c v (p.upTo k) limit left t) := by
  induction left generalizing s t past with
  | zero =>
    obtain ⟨m, a, b, rfl, hm, ha, hb⟩ := h
    exact .inl ⟨_, _, _, rfl, rfl, m, a, b, rfl, hm, ha, hb⟩
  | succ left ih =>
    -- as many rows as iterates, and iterates below the lower limit: both records have room
    have hadmits : s.history.Admits k := by
      have hrows := htally.rows
      have hcapacity := htally.capacity
      exact .inr ⟨by omega, by omega⟩
    have hlimits : p.settings.iterationLimit ≤ k := by omega
    unfold loop
    obtain ⟨u, w, r, hu, hw, hlike⟩ | ⟨hcap, hbefore⟩ := advance_toLimit hle hlimits hadmits h
    · rw [hu, hw]
      cases r with
      | running =>
        exact ih (tally_invariant.advance htally hu (by simp)) (htally.room hroom hlimit hu) hlike
      | ended status => exact .inl ⟨u, w, _, rfl, rfl, hlike⟩
      | failed e => exact .inl ⟨u, w, _, rfl, rfl, hlike⟩
    · rcases ha : s.advance c v p with ⟨u, r⟩
      rw [ha] at hcap hbefore
      obtain rfl : r = .ended .maxIter := hcap
      refine .inr ⟨rfl, ?_⟩
      -- whatever the other run still does, it takes nothing back
      rcases hb : t.advance c v (p.upTo k) with ⟨w, _ | status | e⟩
      · rw [hb] at hbefore
        exact hle.before_trans hbefore (hle.loop limit left w)
      · rwa [hb] at hbefore
      · rwa [hb] at hbefore

end Iterates

end RunState

def Outcome.Continues (le : σ → σ → Prop) (met : Prop) (first second : Outcome σ) : Prop :=
  second = first ∨
    met ∧ le first.memory second.memory ∧
      ∀ r r', first.answer = .ok r → second.answer = .ok r' → r.history <+: r'.history

theorem RunState.CutShort.continues {cap : Status} {met : Prop}
    {first second : RunState σ n × Except Error Status} (h : CutShort le cap first second)
    (hmet : first.2 = .ok cap → met) :
    Outcome.Continues le met (outcome v first) (outcome v second) := by
  obtain ⟨w, r⟩ := first
  obtain ⟨w', r'⟩ := second
  obtain ⟨hcap, hmemory, hrows⟩ := h
  obtain rfl : r = .ok cap := hcap
  refine .inr ⟨hmet rfl, hmemory, ?_⟩
  intro s s' hs hs'
  obtain ⟨text, -, rfl⟩ := result_eq_ok (v := v) hs
  cases r' with
  | error e => cases hs'
  | ok status =>
    obtain ⟨text', -, rfl⟩ := result_eq_ok (v := v) hs'
    exact hrows

/-- The run goes on until it meets this limit, though the solver may still refuse its text for the
result. -/
def MeetsLimit (c : Client σ) (v : Solver σ) (fcn lower upper : Value) (opts : Option Value)
    (watched : Bool) (cancel : Cancellation) (memory : σ) (cap : Status) : Prop :=
  ∃ a q w, Starts v fcn lower upper opts watched cancel memory a q ∧
    q.state.drive c v q.problem = (w, .ok cap)

section Minimize

variable {fcn lower upper : Value} {opts opts' : Option Value} {watched : Bool}
  {cancel : Cancellation} {memory : σ} {cap : Status} {a : Checked} {k : Nat}

theorem meetsLimit_iff {r : Result}
    (hr : (minimize c v fcn lower upper opts watched cancel memory).answer = .ok r) :
    MeetsLimit c v fcn lower upper opts watched cancel memory cap ↔ r.status = cap := by
  constructor
  · rintro ⟨a, q, w, h, hcap⟩
    obtain ⟨w', ending, -, hdrive, hm⟩ := h.finish c
    rw [hcap] at hdrive
    cases hdrive
    rw [hm] at hr
    obtain ⟨text, -, rfl⟩ := RunState.result_eq_ok (v := v) hr
    rfl
  · rintro rfl
    obtain ⟨a, q, h⟩ := Starts.of_answer hr
    obtain ⟨w, ending, -, hdrive, hm⟩ := h.finish c
    rw [hm] at hr
    cases ending with
    | error e => cases hr
    | ok status =>
      obtain ⟨text, -, rfl⟩ := RunState.result_eq_ok (v := v) hr
      exact ⟨a, q, w, h, hdrive⟩

theorem meetsLimit_of_loop {left : σ} {w : Workspace} {record : History}
    (h : checkArguments fcn lower upper opts = .ok a)
    (hw : v.allocate a.x0.length (a.options.m : Int) memory = (left, .ok w))
    (hrecord : a.options.history = .ok record)
    (hcap : (RunState.loop c v (a.problem watched) a.options.maxTotalIts a.options.maxTotalIts
      (a.opened watched cancel w record left)).2 = .ok cap) :
    MeetsLimit c v fcn lower upper opts watched cancel memory cap :=
  ⟨a, _, _, .of_set_up h hw hrecord, a.drive_eq.trans (Prod.ext rfl hcap)⟩

theorem continues_calls (hle : Ascending c v le) (hk : a.options.maxTotalIts ≤ k)
    (h : checkArguments fcn lower upper opts = .ok a)
    (h' : checkArguments fcn lower upper opts' = .ok { a with options.maxTotalIts := k }) :
    Outcome.Continues le (MeetsLimit c v fcn lower upper opts watched cancel memory .maxTotalIter)
      (minimize c v fcn lower upper opts watched cancel memory)
      (minimize c v fcn lower upper opts' watched cancel memory) := by
  rcases hw : v.allocate a.x0.length (a.options.m : Int) memory with ⟨left, e | w⟩
  · rw [minimize_of_unallocated h hw, minimize_of_unallocated h' hw]
    exact .inl rfl
  · cases hrecord : a.options.history with
    | error e =>
      rw [minimize_of_unrecorded h hw hrecord, minimize_of_unrecorded h' hw hrecord]
      exact .inl rfl
    | ok record =>
      obtain ⟨j, rfl⟩ := Nat.exists_eq_add_of_le hk
      rw [minimize_eq_loop h hw hrecord, minimize_eq_loop h' hw hrecord]
      obtain hsame | hcut := RunState.loop_more (p := a.problem watched) hle
        (.ok (.whole ↑(a.options.maxTotalIts + j)))
        (a.opened watched cancel w record left) a.options.maxTotalIts j a.options.maxTotalIts
        ↑(a.options.maxTotalIts + j)
      · exact .inl (congrArg (RunState.outcome v) hsame)
      · exact hcut.continues (meetsLimit_of_loop h hw hrecord)

theorem continues_iterates (hle : Ascending c v le) (hk : a.options.maxIts ≤ k)
    (hroom : ∃ record, Options.history { a.options with maxIts := k } = .ok record)
    (h : checkArguments fcn lower upper opts = .ok a)
    (h' : checkArguments fcn lower upper opts' = .ok { a with options.maxIts := k }) :
    Outcome.Continues le (MeetsLimit c v fcn lower upper opts watched cancel memory .maxIter)
      (minimize c v fcn lower upper opts watched cancel memory)
      (minimize c v fcn lower upper opts' watched cancel memory) := by
  obtain ⟨record, hrecord⟩ := Options.history_mono hk hroom
  obtain ⟨record', hrecord'⟩ := hroom
  rcases hw : v.allocate a.x0.length (a.options.m : Int) memory with ⟨left, e | w⟩
  · rw [minimize_of_unallocated h hw, minimize_of_unallocated h' hw]
    exact .inl rfl
  · rw [minimize_eq_loop h hw hrecord, minimize_eq_loop h' hw hrecord']
    have hproblem : Checked.problem { a with options.maxIts := k } watched =
        (a.problem watched).upTo k := rfl
    have hfresh : (a.opened watched cancel w record left).Fresh a.options :=
      Checked.opened_fresh hrecord
    have hstart : (a.opened watched cancel w record left).outer < a.options.maxIts :=
      (limits_of_checkArguments h).1
    have hopened : RunState.Roomier k (a.opened watched cancel w record left)
        (Checked.opened { a with options.maxIts := k } watched cancel w record' left) := by
      obtain rfl := Options.history_ok hrecord
      obtain rfl := Options.history_ok hrecord'
      exact ⟨_, _, _, rfl, rfl, rfl, rfl⟩
    rw [hproblem]
    obtain ⟨u, u', r, hu, hu', hlike⟩ | hcut := RunState.loop_toLimit (p := a.problem watched) hle
      rfl hk (.ofFresh hfresh) hstart hopened a.options.maxTotalIts a.options.maxTotalIts
    · obtain ⟨m, hsame, rfl⟩ := hlike.outcome v.simulates_self.message r
      exact .inl (hu ▸ hu' ▸ hsame)
    · exact hcut.continues (meetsLimit_of_loop h hw hrecord)

end Minimize

theorem Raises.continues {fcn lower upper : Value} {opts opts' : Option Value} {cap : Status}
    (hle : Ascending c v le)
    (h : Raises cap (checkArguments fcn lower upper opts) (checkArguments fcn lower upper opts'))
    (watched : Bool) (cancel : Cancellation) (memory : σ) :
    Outcome.Continues le (MeetsLimit c v fcn lower upper opts watched cancel memory cap)
      (minimize c v fcn lower upper opts watched cancel memory)
      (minimize c v fcn lower upper opts' watched cancel memory) := by
  generalize hfirst : checkArguments fcn lower upper opts = first at h
  generalize hsecond : checkArguments fcn lower upper opts' = second at h
  cases h with
  | refused cap e =>
    rw [minimize_of_unchecked hfirst, minimize_of_unchecked hsecond]
    exact .inl rfl
  | calls a k hk => exact continues_calls hle hk hfirst hsecond
  | iterates a k hk hroom => exact continues_iterates hle hk hroom hfirst hsecond

/-- Of two runs that differ in one limit alone, the one with the lower limit makes the first calls
of the other one, and the first rows of its record; unless it meets that very limit, as a result
tells by its status, both end alike. -/
theorem limits_only_cut_short {fcn lower upper : Value} {opts opts' : Option Value} {cap : Status}
    (h : Raises cap (checkArguments fcn lower upper opts) (checkArguments fcn lower upper opts'))
    (c : Client σ) (v : Solver σ) (watched : Bool) (cancel : Cancellation) (memory : σ) :
    calls c v fcn lower upper opts watched cancel memory <+:
      calls c v fcn lower upper opts' watched cancel memory ∧
    (¬ MeetsLimit c v fcn lower upper opts watched cancel memory cap →
      minimize c v fcn lower upper opts' watched cancel memory =
        minimize c v fcn lower upper opts watched cancel memory) ∧
    (∀ r, (minimize c v fcn lower upper opts watched cancel memory).answer = .ok r →
      (MeetsLimit c v fcn lower upper opts watched cancel memory cap ↔ r.status = cap)) ∧
    ∀ r r', (minimize c v fcn lower upper opts watched cancel memory).answer = .ok r →
      (minimize c v fcn lower upper opts' watched cancel memory).answer = .ok r' →
      r.history <+: r'.history := by
  refine ⟨?_, ?_, fun r hr => meetsLimit_iff hr, ?_⟩
  · unfold calls
    obtain hsame | ⟨-, hevents, -⟩ := h.continues (c.journaled_ascending v) watched
      cancel { memory }
    · exact hsame ▸ List.prefix_refl _
    · exact hevents
  · intro huncapped
    obtain hsame | ⟨hmet, -⟩ := h.continues (anything_ascending c v) watched cancel memory
    · exact hsame
    · exact absurd hmet huncapped
  · intro r r' hr hr'
    obtain hsame | ⟨-, -, hrows⟩ := h.continues (anything_ascending c v) watched
      cancel memory
    · rw [hsame, hr] at hr'
      cases hr'
      exact List.prefix_refl _
    · exact hrows r r' hr hr'

section Rehearsed

def upToOption (k : Nat) : Value := .mapping [(.text "maxIts", .int k)]

def upToChecked (k : Nat) : Checked where
  evaluator := .joint (.callable ⟨0, "f", false⟩)
  options := { maxIts := k }
  x0 := [0.0]
  lower := [-4.0]
  upper := [4.0]

def twoRowScript : Script Reply :=
  .ofMoves [({ set := some [0.5] }, .requestFG), ({}, .newX), ({ set := some [0.25] }, .requestFG),
    ({}, .newX), ({}, .convergence)]

theorem upTo_raises : Raises .maxIter
    (checkArguments (.callable ⟨0, "f", false⟩) (.list [.float (-4.0)]) (.list [.float 4.0])
      (some (upToOption 1)))
    (checkArguments (.callable ⟨0, "f", false⟩) (.list [.float (-4.0)]) (.list [.float 4.0])
      (some (upToOption 5))) :=
  .iterates (upToChecked 1) 5 (by decide) ⟨_, rfl⟩

theorem limits_only_cut_short_after_one :
    ∃ r r', (rehearse ⟨#[.squares]⟩ twoRowScript (upToOption 1)).answer = .ok r ∧
      (rehearse ⟨#[.squares]⟩ twoRowScript (upToOption 5)).answer = .ok r' ∧
      r.status = .maxIter ∧ r.nit = 1 ∧ r'.status = .converged ∧ r'.nit = 2 ∧
      r.history <+: r'.history := by
  obtain ⟨-, -, -, hrows⟩ := limits_only_cut_short upTo_raises (Cast.client ⟨#[.squares]⟩)
    (twoRowScript.solver "") true {} {}
  obtain ⟨r, hr, hread⟩ : ∃ r : Result,
      (rehearse ⟨#[.squares]⟩ twoRowScript (upToOption 1)).answer = .ok r ∧
        (r.status, r.nit) = (.maxIter, 1) :=
    exists_of_map_toOption (by decide +kernel)
  obtain ⟨r', hr', hread'⟩ : ∃ r : Result,
      (rehearse ⟨#[.squares]⟩ twoRowScript (upToOption 5)).answer = .ok r ∧
        (r.status, r.nit) = (.converged, 2) :=
    exists_of_map_toOption (by decide +kernel)
  simp only [Prod.mk.injEq] at hread hread'
  exact ⟨r, r', hr, hr', hread.1, hread.2, hread'.1, hread'.2, hrows r r' hr hr'⟩

def briefScript : Script Reply :=
  .ofMoves [({ set := some [0.5] }, .requestFG), ({}, .convergence)]

def briefCalls (k : Nat) : List Event :=
  calls (Cast.client ⟨#[.squares]⟩) (briefScript.solver "") (.callable ⟨0, "f", false⟩)
    (.list [.float (-4.0)]) (.list [.float 4.0]) (some (upToOption k)) true {} {}

/-- A run that converges with one iterate allowed is refused where so many are allowed that no
record of them can be made; it does not even call the solver. -/
theorem higher_limit_refused :
    checkArguments (.callable ⟨0, "f", false⟩) (.list [.float (-4.0)]) (.list [.float 4.0])
        (some (upToOption 1)) = .ok (upToChecked 1) ∧
      checkArguments (.callable ⟨0, "f", false⟩) (.list [.float (-4.0)]) (.list [.float 4.0])
        (some (upToOption 18446744073709551616)) = .ok (upToChecked 18446744073709551616) ∧
      (∃ r, (rehearse ⟨#[.squares]⟩ briefScript (upToOption 1)).answer = .ok r ∧
        r.status = .converged) ∧
      (∀ r', (rehearse ⟨#[.squares]⟩ briefScript (upToOption 18446744073709551616)).answer ≠
        .ok r') ∧
      ¬ briefCalls 1 <+: briefCalls 18446744073709551616 := by
  refine ⟨rfl, rfl, exists_of_map_toOption (by decide +kernel), ?_, ?_⟩
  · intro r' hr'
    have hnone : (rehearse ⟨#[.squares]⟩ briefScript
        (upToOption 18446744073709551616)).answer.toOption.isNone = true := by decide +kernel
    rw [hr'] at hnone
    cases hnone
  · intro hprefix
    have hfirst : (briefCalls 1).length = 4 := by decide +kernel
    have hsecond : (briefCalls 18446744073709551616).length = 1 := by decide +kernel
    have hlength := hprefix.length_le
    omega

end Rehearsed

end BoxMin
