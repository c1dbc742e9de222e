import BoxMin.Proofs.WordTable
import BoxMin.Task.Code
import BoxMin.Workspace

set_option autoImplicit false

namespace BoxMin

theorem fieldWords_prefixFree : PrefixFree fieldWords := by
  decide +kernel

theorem fieldWords_unpadded : ∀ e ∈ fieldWords, ∀ c ∈ e.1.toList, isPadding c = false := by
  have hall : (fieldWords.all fun e => e.1.toList.all fun c => !isPadding c) = true := by
    decide +kernel
  simpa only [List.all_eq_true, Bool.not_eq_true'] using hall

theorem taskIn_of_word {e : String × Task} {cs : List Char} (he : e ∈ fieldWords)
    (h : e.1.toList <+: cs) : taskIn fieldWords cs = e.2 :=
  fieldWords_prefixFree.taskIn_of_mem (mem_openers.mpr ⟨he, h⟩)

theorem taskIn_of_no_word {cs : List Char} (h : ∀ e ∈ fieldWords, ¬ e.1.toList <+: cs) :
    taskIn fieldWords cs = .unknown := by
  unfold taskIn
  rw [List.find?_eq_none.mpr]
  intro e he
  simpa using h e he

section Padding

theorem exists_trimEnd (drop : Char → Bool) (cs : List Char) :
    ∃ tail, trimEnd drop cs ++ tail = cs ∧ ∀ c ∈ tail, drop c = true := by
  refine ⟨(cs.reverse.takeWhile drop).reverse, ?_, ?_⟩
  · rw [trimEnd, ← List.reverse_append, List.takeWhile_append_dropWhile, List.reverse_reverse]
  · intro c hc
    exact List.all_eq_true.mp List.all_takeWhile c (List.mem_reverse.mp hc)

theorem prefix_of_unpadded {w cs tail : List Char} (hw : ∀ c ∈ w, isPadding c = false)
    (htail : ∀ c ∈ tail, isPadding c = true) (h : w <+: cs ++ tail) : w <+: cs := by
  rcases List.prefix_or_prefix_of_prefix h (List.prefix_append cs tail) with hle | ⟨r, rfl⟩
  · exact hle
  · cases r with
    | nil => simp
    | cons c r =>
      have hc : c ∈ tail := (List.prefix_append_right_inj cs).mp h |>.subset List.mem_cons_self
      have hpad := hw c (by simp)
      rw [htail c hc] at hpad
      cases hpad

theorem prefix_trimField_iff {w cs : List Char} (hw : ∀ c ∈ w, isPadding c = false)
    (hlength : w.length ≤ fieldWidth) : w <+: trimField cs ↔ w <+: cs := by
  obtain ⟨tail, htrim, htail⟩ := exists_trimEnd isPadding (cs.take fieldWidth)
  constructor
  · intro h
    have hcut : trimField cs <+: cs.take fieldWidth := ⟨tail, htrim⟩
    exact h.trans (hcut.trans (List.take_prefix _ _))
  · intro h
    have hcut : w <+: trimField cs ++ tail := by
      rw [trimField, htrim]
      exact List.prefix_take_iff.mpr ⟨h, hlength⟩
    exact prefix_of_unpadded hw htail hcut

theorem fieldChar_of_padding {b : UInt8} (h : b = 32 ∨ b = 0) : isPadding (fieldChar b) = true := by
  rcases h with rfl | rfl <;> decide

theorem toNat_ofNat_ascii : ∀ k < 128, (Char.ofNat k).toNat = k := by
  decide +kernel

theorem ofNat_fieldChar {b : UInt8} (h : (fieldChar b).toNat < 128) :
    UInt8.ofNat (fieldChar b).toNat = b := by
  unfold fieldChar at h ⊢
  split at h
  · rename_i hb
    rw [if_pos hb, toNat_ofNat_ascii b.toNat hb, UInt8.ofNat_toNat]
  · exact absurd h (by decide)

theorem fieldChar_ofNat {c : Char} (h : c.toNat < 128) : fieldChar (UInt8.ofNat c.toNat) = c := by
  have hb : (UInt8.ofNat c.toNat).toNat = c.toNat := by
    rw [UInt8.toNat_ofNat']
    omega
  have hlt : UInt8.ofNat c.toNat < 128 := by
    rw [UInt8.lt_iff_toNat_lt, hb]
    exact h
  rw [fieldChar, if_pos hlt, hb, Char.ofNat_toNat]

theorem prefix_fieldChars_iff {w : String} {bytes : List UInt8}
    (hw : ∀ c ∈ w.toList, c.toNat < 128) :
    w.toList <+: bytes.map fieldChar ↔ textBytes w <+: bytes := by
  constructor
  · intro h
    obtain ⟨front, hfront, heq⟩ := List.prefix_map_iff.mp h
    have hread : ∀ b ∈ front, UInt8.ofNat (fieldChar b).toNat = b := fun b hb =>
      ofNat_fieldChar (hw _ (heq ▸ List.mem_map_of_mem hb))
    have hbytes : textBytes w = front := by
      rw [textBytes, heq, List.map_map]
      exact (List.map_congr_left hread).trans (List.map_id front)
    rwa [hbytes]
  · intro h
    have hchars : (textBytes w).map fieldChar = w.toList := by
      rw [textBytes, List.map_map]
      exact (List.map_congr_left fun c hc => fieldChar_ofNat (hw c hc)).trans (List.map_id _)
    rw [← hchars]
    exact h.map fieldChar

end Padding

/-- A status of a routine that reports in numbers, and the field of one that reports in text: the
text, which padding fills up, begins with the word of the task that the status stands for, and with
no word if it stands for none. -/
def Announces (status : Int) (bytes : List UInt8) : Prop :=
  ∃ text padding, bytes = text ++ padding ∧ text.length ≤ fieldWidth ∧
    (∀ b ∈ padding, b = 32 ∨ b = 0) ∧
    match taskCodes.lookup status with
    | some task => ∃ word, (word, task) ∈ fieldWords ∧ textBytes word <+: text
    | none => ∀ e ∈ fieldWords, ¬ textBytes e.1 <+: text

theorem announces_padField (task : Task) (word : String) {status : Int} {bytes : List UInt8}
    (hstatus : taskCodes.lookup status = some task) (hword : (word, task) ∈ fieldWords)
    (hbytes : textBytes word <+: bytes) (hlength : bytes.length ≤ fieldWidth) :
    Announces status (padField bytes) := by
  refine ⟨bytes, List.replicate (fieldWidth - bytes.length) 0, ?_, hlength, ?_, ?_⟩
  · rw [padField, List.take_of_length_le hlength]
  · intro b hb
    exact .inr (List.eq_of_mem_replicate hb)
  · rw [hstatus]
    exact ⟨word, hword, hbytes⟩

theorem fieldWords_ascii : ∀ e ∈ fieldWords, ∀ c ∈ e.1.toList, c.toNat < 128 := by
  have hall : (fieldWords.all fun e => e.1.toList.all fun c => c.toNat < 128) = true := by
    decide +kernel
  simpa only [List.all_eq_true, decide_eq_true_eq] using hall

theorem fieldWords_short : ∀ e ∈ fieldWords, e.1.toList.length ≤ fieldWidth := by
  decide +kernel

theorem prefix_fieldText_iff {e : String × Task} (he : e ∈ fieldWords) {text padding : List UInt8}
    (hpadding : ∀ b ∈ padding, b = 32 ∨ b = 0) :
    e.1.toList <+: fieldText (text ++ padding) ↔ textBytes e.1 <+: text := by
  have hw := fieldWords_unpadded e he
  rw [fieldText, prefix_trimField_iff hw (fieldWords_short e he), List.map_append,
    ← prefix_fieldChars_iff (fieldWords_ascii e he)]
  constructor
  · refine prefix_of_unpadded hw fun c hc => ?_
    obtain ⟨b, hb, rfl⟩ := List.mem_map.mp hc
    exact fieldChar_of_padding (hpadding b hb)
  · exact fun h => h.trans (List.prefix_append _ _)

theorem Announces.task_eq {status : Int} {bytes : List UInt8} (h : Announces status bytes) :
    taskIn fieldWords (fieldText bytes) = taskOfCode status := by
  obtain ⟨text, padding, rfl, -, hpadding, hword⟩ := h
  unfold taskOfCode
  cases hlookup : taskCodes.lookup status with
  | some task =>
    rw [hlookup] at hword
    obtain ⟨word, hmem, hprefix⟩ := hword
    exact taskIn_of_word hmem ((prefix_fieldText_iff hmem hpadding).mpr hprefix)
  | none =>
    rw [hlookup] at hword
    exact taskIn_of_no_word fun e he h => hword e he ((prefix_fieldText_iff he hpadding).mp h)

end BoxMin
