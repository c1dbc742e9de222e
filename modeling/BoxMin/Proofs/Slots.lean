import BoxMin.History.Slots
import BoxMin.Proofs.Row

/-!
The record as a list. What a call has to add is settled without the record; the record takes it as
long as it has room, and nothing else that a call does shows in its rows.
-/

set_option autoImplicit false

namespace BoxMin

namespace SlottedHistory

variable {s t : SlottedHistory} {spill : Value → List Float} {xs : List Float}

@[simp] theorem length_rows (s : SlottedHistory) : s.rows.length = s.used := by
  simp [rows]

theorem rows_write (s : SlottedHistory) (xs : List Float) : (s.write xs).rows = s.rows := by
  refine List.map_congr_left fun i hi => ?_
  have hne : i ≠ s.used := Nat.ne_of_lt (List.mem_range.mp hi)
  simp [slot, width, write, hne]

theorem rows_writeRow (hroom : s.used < s.capacity) (hwidth : xs.length = s.width) :
    (s.writeRow xs hroom).rows = s.rows ++ [xs] := by
  have hlast : (s.write xs).slot s.used = xs := by
    refine List.ext_getElem (by simp [slot, width, write, hwidth]) fun j hj hj' => ?_
    simp [slot, write, hj']
  calc (s.writeRow xs hroom).rows
      = (List.range (s.used + 1)).map (s.write xs).slot := rfl
    _ = (s.write xs).rows ++ [(s.write xs).slot s.used] := by
        rw [List.range_succ, List.map_append]
        rfl
    _ = s.rows ++ [xs] := by rw [rows_write, hlast]

structure SameFrame (s t : SlottedHistory) : Prop where
  capacity : t.capacity = s.capacity
  outputs : t.outputs = s.outputs
  displays : t.displays = s.displays

/-- What becomes of a record that is asked to take a row, or something that is none: the row is its
last one if there is room, and otherwise nothing has happened. -/
inductive Takes (s : SlottedHistory) (row? : Option (List Float)) :
    SlottedHistory → Except Error Unit → Prop where
  | added {t : SlottedHistory} {row : List Float} (hroom : s.used < s.capacity)
      (hrow : row? = some row) (hrows : t.rows = s.rows ++ [row]) (hframe : s.SameFrame t) :
      Takes s row? t (.ok ())
  | refused {t : SlottedHistory} {e : Error} (hreason : s.capacity ≤ s.used ∨ row? = none)
      (hrows : t.rows = s.rows) (hframe : s.SameFrame t) : Takes s row? t (.error e)

theorem append_takes (spill : Value → List Float) (s : SlottedHistory) (isTuple : Bool)
    (vs : List Value) :
    s.Takes (Value.cells? s.width vs) (s.append spill (.sequence isTuple vs)).1
      (s.append spill (.sequence isTuple vs)).2 := by
  unfold append
  rw [Value.length_sequence]
  split
  · rename_i hfull
    exact .refused (.inl hfull) rfl ⟨rfl, rfl, rfl⟩
  · rename_i hroom
    dsimp only
    split
    · rename_i hwidth
      exact .refused (.inr (by rw [Value.cells?, if_neg hwidth])) rfl ⟨rfl, rfl, rfl⟩
    · rename_i hwidth
      have hcells := Value.toRow_cells? isTuple (Decidable.not_not.mp hwidth)
        (by unfold width; omega)
      split
      · rename_i f hrow
        rw [hrow] at hcells
        exact .refused (.inr hcells.symm) (rows_write s _) ⟨rfl, rfl, rfl⟩
      · rename_i xs hrow
        rw [hrow] at hcells
        have hxs : Value.cells? s.width vs = some xs := hcells.symm
        exact .added (Nat.not_le.mp hroom) hxs (rows_writeRow _ (Value.length_cells? hxs))
          ⟨rfl, rfl, rfl⟩

end SlottedHistory

theorem Client.diagnose_renumbered {σ : Type} {n : Nat} (c : Client σ) (i j : Nat) (fs : List Value)
    (sh : Shared σ n) :
    (c.diagnose i fs sh).1 = (c.diagnose j fs sh).1 ∧
      (c.diagnose i fs sh).2.toOption = (c.diagnose j fs sh).2.toOption := by
  induction fs generalizing sh with
  | nil => exact ⟨rfl, rfl⟩
  | cons f fs ih =>
    simp only [diagnose]
    rcases c.callValue f sh with ⟨sh, e | v⟩
    · exact ⟨rfl, rfl⟩
    · dsimp only
      cases v.toFloat with
      | error fault => exact ⟨rfl, rfl⟩
      | ok y =>
        obtain ⟨hstate, hanswer⟩ := ih sh
        dsimp only
        generalize c.diagnose i fs sh = r at hstate hanswer ⊢
        generalize c.diagnose j fs sh = r' at hstate hanswer ⊢
        obtain ⟨t, e | ys⟩ := r <;> obtain ⟨t', e' | ys'⟩ := r'
        · exact ⟨hstate, rfl⟩
        · cases hanswer
        · cases hanswer
        · cases hanswer
          exact ⟨hstate, rfl⟩

theorem take_take_append {α : Type} (k : Nat) (xs ys : List α) :
    (xs.take k ++ ys).take k = (xs ++ ys).take k := by
  rw [List.take_append, List.take_append, List.take_take, Nat.min_self, List.length_take]
  congr 2
  omega

section Calls

variable {σ : Type}

inductive HistoryCall where
  | append (isTuple : Bool) (entries : List Value)
  | record (f : Value) (g x : List Float)

namespace HistoryCall

/-- The row a call is after, if it is one, and what becomes of the cancellation and the memory
meanwhile. No record is looked at. -/
def offers (c : Client σ) (outputs : List Value) (cancel : Cancellation) (memory : σ) :
    HistoryCall → Cancellation × σ × Option (List Float)
  | append _ entries => (cancel, memory, Value.cells? (2 + outputs.length) entries)
  | record f g x => Shared.atPoint x cancel memory fun sh =>
    let (sh, extras) := c.diagnose 0 outputs sh
    (sh, extras.toOption.bind fun ys => f.toCell.toOption.map (· :: infNorm g :: ys))

def allOffers (c : Client σ) (outputs : List Value) (cancel : Cancellation) (memory : σ) :
    List HistoryCall → List (List Float)
  | [] => []
  | call :: calls =>
    let (cancel, memory, row?) := call.offers c outputs cancel memory
    row?.toList ++ allOffers c outputs cancel memory calls

/-- The call on the record as a run holds it. -/
def onHistory (c : Client σ) (cancel : Cancellation) (memory : σ) (h : History) :
    HistoryCall → Cancellation × σ × Except Error History
  | append isTuple entries => (cancel, memory, h.append (.sequence isTuple entries))
  | record f g x => Shared.atPoint x cancel memory fun sh => h.record c f g sh

end HistoryCall

structure Session (σ : Type) where
  kept : SlottedHistory
  cancel : Cancellation
  memory : σ

namespace Session

def opened (capacity : Nat) (outputs displays : List Value) (cancel : Cancellation) (memory : σ) :
    Session σ where
  kept := { capacity, outputs, displays }
  cancel := cancel
  memory := memory

def perform (spill : Value → List Float) (c : Client σ) (s : Session σ) :
    HistoryCall → Session σ × Except Error Unit
  | .append isTuple entries =>
    let (kept, answer) := s.kept.append spill (.sequence isTuple entries)
    ({ s with kept }, answer)
  | .record f g x =>
    let (cancel, memory, kept, answer) :=
      Shared.atPoint x s.cancel s.memory fun sh => s.kept.record spill c f g sh
    (⟨kept, cancel, memory⟩, answer)

def after (spill : Value → List Float) (c : Client σ) (s : Session σ) (calls : List HistoryCall) :
    Session σ :=
  calls.foldl (fun s call => (s.perform spill c call).1) s

end Session

end Calls

namespace SlottedHistory

variable {σ : Type} {n : Nat} {s t u : SlottedHistory} {row? : Option (List Float)}
  {answer : Except Error Unit}

theorem SameFrame.width (h : s.SameFrame t) : t.width = s.width := by
  rw [SlottedHistory.width, SlottedHistory.width, h.outputs]

theorem SameFrame.trans (h : s.SameFrame t) (h' : t.SameFrame u) : s.SameFrame u :=
  ⟨h'.capacity.trans h.capacity, h'.outputs.trans h.outputs, h'.displays.trans h.displays⟩

theorem Takes.frame (h : s.Takes row? t answer) : s.SameFrame t := by
  cases h <;> assumption

theorem Takes.isOk_iff (h : s.Takes row? t answer) :
    answer = .ok () ↔ s.used < s.capacity ∧ ∃ row, row? = some row := by
  cases h with
  | added hroom hrow => exact iff_of_true rfl ⟨hroom, _, hrow⟩
  | refused hreason =>
    refine iff_of_false nofun fun ⟨hroom, row, hrow⟩ => ?_
    rcases hreason with hfull | hnone
    · omega
    · cases hrow.symm.trans hnone

theorem Takes.rows_eq (h : s.Takes row? t answer) :
    t.rows = (s.rows ++ row?.toList).take s.capacity := by
  have hlength := length_rows s
  have hfits := s.fits
  cases h with
  | added hroom hrow hrows =>
    rw [hrows, hrow, List.take_of_length_le (by simp; omega)]
    rfl
  | refused hreason hrows =>
    rw [hrows]
    rcases hreason with hfull | hnone
    · rw [List.take_append_of_le_length (by omega), List.take_of_length_le (by omega)]
    · rw [hnone, Option.toList_none, List.append_nil, List.take_of_length_le (by omega)]

theorem Takes.isPrefix_rows (h : s.Takes row? t answer) : s.rows <+: t.rows := by
  cases h with
  | added _ _ hrows => exact hrows ▸ List.prefix_append _ _
  | refused _ hrows => exact hrows ▸ List.prefix_refl _

theorem record_takes (spill : Value → List Float) (c : Client σ) (s : SlottedHistory) (f : Value)
    (g : List Float) (sh : Shared σ n) :
    (s.record spill c f g sh).1 = (c.diagnose 0 s.outputs sh).1 ∧
      s.Takes ((c.diagnose 0 s.outputs sh).2.toOption.bind fun ys =>
          f.toCell.toOption.map (· :: infNorm g :: ys))
        (s.record spill c f g sh).2.1 (s.record spill c f g sh).2.2 := by
  obtain ⟨hstate, hextras⟩ := c.diagnose_renumbered 0 (s.used + 1) s.outputs sh
  rw [hstate, hextras]
  rcases hdiagnose : c.diagnose (s.used + 1) s.outputs sh with ⟨sh', e | ys⟩
  · simp only [record, hdiagnose]
    exact ⟨trivial, .refused (.inr rfl) rfl ⟨rfl, rfl, rfl⟩⟩
  · have hwidth : (infNorm g :: ys).length + 1 = s.width := by
      have hlength := c.diagnose_length _ _ _ _ _ hdiagnose
      simp only [List.length_cons, width]
      omega
    have htakes := append_takes spill s false (f :: (infNorm g :: ys).map .float)
    rw [Value.cells?_floats f hwidth] at htakes
    simp only [record, hdiagnose]
    exact ⟨trivial, htakes⟩

theorem toHistory_append (spill : Value → List Float) (s : SlottedHistory) (isTuple : Bool)
    (vs : List Value) :
    s.toHistory.append (.sequence isTuple vs) =
      (s.append spill (.sequence isTuple vs)).2.map fun _ =>
        (s.append spill (.sequence isTuple vs)).1.toHistory := by
  have hsize : s.toHistory.size = s.used := s.length_rows
  unfold append History.append
  rw [Value.length_sequence, hsize, show s.toHistory.capacity = s.capacity from rfl,
    show s.toHistory.width = s.width from rfl]
  split
  · rfl
  · dsimp only
    split
    · rfl
    · rename_i hwidth
      cases hrow : (Value.sequence isTuple vs).toRow s.width with
      | error f => rfl
      | ok xs =>
        have hxs := Value.length_cells? ((Value.toRow_cells? isTuple (Decidable.not_not.mp hwidth)
          (by unfold width; omega)).symm.trans (by rw [hrow]; rfl))
        simp only [Except.map, toHistory, rows_writeRow _ hxs, List.push_toArray]
        rfl

theorem toHistory_record (spill : Value → List Float) (c : Client σ) (s : SlottedHistory) (f : Value)
    (g : List Float) (sh : Shared σ n) :
    s.toHistory.record c f g sh =
      ((s.record spill c f g sh).1,
        (s.record spill c f g sh).2.2.map fun _ => (s.record spill c f g sh).2.1.toHistory) := by
  have hsize : s.toHistory.size = s.used := s.length_rows
  unfold record History.record
  rw [hsize, show s.toHistory.outputs = s.outputs from rfl]
  rcases c.diagnose (s.used + 1) s.outputs sh with ⟨sh, e | ys⟩
  · rfl
  · exact congrArg (sh, ·) (s.toHistory_append spill false _)

end SlottedHistory

namespace Session

variable {σ : Type} {spill : Value → List Float} {c : Client σ} {s : Session σ}

theorem perform_takes (spill : Value → List Float) (c : Client σ) (s : Session σ)
    (call : HistoryCall) :
    (s.perform spill c call).1.cancel = (call.offers c s.kept.outputs s.cancel s.memory).1 ∧
      (s.perform spill c call).1.memory = (call.offers c s.kept.outputs s.cancel s.memory).2.1 ∧
      s.kept.Takes (call.offers c s.kept.outputs s.cancel s.memory).2.2
        (s.perform spill c call).1.kept (s.perform spill c call).2 := by
  cases call with
  | append isTuple entries =>
    exact ⟨rfl, rfl, s.kept.append_takes spill isTuple entries⟩
  | record f g x =>
    obtain ⟨hstate, htakes⟩ :=
      s.kept.record_takes spill c f g ⟨⟨x.toArray, rfl⟩, s.cancel, s.memory⟩
    exact ⟨congrArg Shared.cancel hstate, congrArg Shared.memory hstate, htakes⟩

theorem perform_onHistory (spill : Value → List Float) (c : Client σ) (s : Session σ)
    (call : HistoryCall) :
    call.onHistory c s.cancel s.memory s.kept.toHistory =
      ((s.perform spill c call).1.cancel, (s.perform spill c call).1.memory,
        (s.perform spill c call).2.map fun _ => (s.perform spill c call).1.kept.toHistory) := by
  cases call with
  | append isTuple entries =>
    simp only [HistoryCall.onHistory, s.kept.toHistory_append spill isTuple]
    rfl
  | record f g x =>
    simp only [HistoryCall.onHistory, Shared.atPoint, s.kept.toHistory_record spill c]
    rfl

theorem after_rows (spill : Value → List Float) (c : Client σ) (calls : List HistoryCall)
    (s : Session σ) :
    (s.after spill c calls).kept.rows =
        (s.kept.rows ++ HistoryCall.allOffers c s.kept.outputs s.cancel s.memory calls).take
          s.kept.capacity ∧
      s.kept.SameFrame (s.after spill c calls).kept ∧
      s.kept.rows <+: (s.after spill c calls).kept.rows := by
  induction calls generalizing s with
  | nil =>
    have hlength := s.kept.length_rows
    have hfits := s.kept.fits
    refine ⟨?_, ⟨rfl, rfl, rfl⟩, List.prefix_refl _⟩
    rw [HistoryCall.allOffers, List.append_nil, List.take_of_length_le (by omega)]
    rfl
  | cons call calls ih =>
    obtain ⟨hcancel, hmemory, htakes⟩ := s.perform_takes spill c call
    have hframe := htakes.frame
    -- what the later calls offer is to be read from where this one leaves the memory
    obtain ⟨hrows, hframe', hextends⟩ := ih (s.perform spill c call).1
    rw [hcancel, hmemory, hframe.outputs, hframe.capacity, htakes.rows_eq, take_take_append] at hrows
    refine ⟨?_, hframe.trans hframe', htakes.isPrefix_rows.trans hextends⟩
    rw [HistoryCall.allOffers, ← List.append_assoc]
    exact hrows

end Session

/-- A record is the list of the rows that calls were after, as far as it has room for them, whatever
refused rows have left in its slots. -/
theorem record_is_bounded_list {σ : Type} (spill : Value → List Float) (c : Client σ)
    (capacity : Nat) (outputs displays : List Value) (cancel : Cancellation) (memory : σ)
    (calls : List HistoryCall) :
    let s := (Session.opened capacity outputs displays cancel memory).after spill c calls
    s.kept.rows = (HistoryCall.allOffers c outputs cancel memory calls).take capacity ∧
      s.kept.used = s.kept.rows.length ∧ s.kept.used ≤ capacity ∧
      s.kept.capacity = capacity ∧ s.kept.width = 2 + outputs.length ∧
      (∀ call : HistoryCall,
        s.kept.Takes (call.offers c outputs s.cancel s.memory).2.2 (s.perform spill c call).1.kept
            (s.perform spill c call).2 ∧
          call.onHistory c s.cancel s.memory s.kept.toHistory =
            ((s.perform spill c call).1.cancel, (s.perform spill c call).1.memory,
              (s.perform spill c call).2.map fun _ =>
                (s.perform spill c call).1.kept.toHistory)) ∧
      (∀ (isTuple : Bool) (entries : List Value),
        ((s.perform spill c (.append isTuple entries)).2 = .ok () ↔
          s.kept.used < capacity ∧ entries.length = 2 + outputs.length ∧
            ∀ v ∈ entries, ∃ y, v.toCell = .ok y)) ∧
      ∀ later : List HistoryCall,
        s.kept.rows <+: (s.after spill c later).kept.rows := by
  intro s
  obtain ⟨hrows, hframe, -⟩ :=
    (Session.opened capacity outputs displays cancel memory).after_rows spill c calls
  have hcapacity : s.kept.capacity = capacity := hframe.capacity
  have houtputs : s.kept.outputs = outputs := hframe.outputs
  have hwidth : s.kept.width = 2 + outputs.length := hframe.width
  refine ⟨hrows, s.kept.length_rows.symm, hcapacity ▸ s.kept.fits, hcapacity, hwidth,
    fun call => ?_, fun isTuple entries => ?_, fun later => ?_⟩
  · exact ⟨houtputs ▸ (s.perform_takes spill c call).2.2, s.perform_onHistory spill c call⟩
  · have htakes := s.kept.append_takes spill isTuple entries
    refine htakes.isOk_iff.trans ?_
    rw [Value.exists_cells?_iff, hcapacity, hwidth]
  · exact (s.after_rows spill c later).2.2

section Rehearsed

def hesitant : Callable := ⟨0, "hesitant", false⟩

def hesitantClient : Client Nat where
  call _ s := ({ s with memory := s.memory + 1 },
    if s.memory = 0 then .error (.fault .unfit) else .ok (.float 0.5))

def refusedCalls : List HistoryCall :=
  [.append false [.float 3.0, .nothing, .bool true],
    .append true [.float 8.0, .list [], .float 8.0], .record (.float 2.0) [] [1.0],
    .record (.float 2.0) [] [1.0],
    .append true [.float 9.0, .float 9.0, .float 9.0]]

theorem record_is_bounded_list_among_refusals :
    ((Session.opened 2 [.callable hesitant] [] {} 0).after (fun row => leadingEntries row.leaves)
        hesitantClient refusedCalls).kept.rows =
      [[3.0, Datum.nan.toFloat, 1.0], [2.0, 0.0, 0.5]] := by
  obtain ⟨hrows, -⟩ := record_is_bounded_list (fun row => leadingEntries row.leaves) hesitantClient 2
    [.callable hesitant] [] {} 0 refusedCalls
  exact hrows

end Rehearsed

end BoxMin
