import BoxMin.Proofs.Task
import BoxMin.Task.Reading
import Mathlib.Data.List.DropRight

/-!
Reports in numbers, read again as text. Every text that a pair of numbers is worded with fits the
status field, ends in no padding and opens with the word of its own task or with none; so it comes
back as it is, with the task it was worded for.
-/

set_option autoImplicit false

namespace BoxMin

theorem trimEnd_eq_self_iff {drop : Char → Bool} {cs : List Char} :
    trimEnd drop cs = cs ↔ ∀ h : cs ≠ [], drop (cs.getLast h) = false := by
  have hiff : cs.rdropWhile drop = cs ↔ _ := List.rdropWhile_eq_self_iff
  simp only [Bool.not_eq_true] at hiff
  exact hiff

structure FitsField (cs : List Char) : Prop where
  width : cs.length ≤ fieldWidth
  ends : ∀ h : cs ≠ [], isPadding (cs.getLast h) = false

namespace FitsField

variable {cs : List Char}

theorem take (h : FitsField cs) : cs.take fieldWidth = cs := List.take_of_length_le h.width

theorem trimEnd (h : FitsField cs) : trimEnd isPadding cs = cs := trimEnd_eq_self_iff.mpr h.ends

theorem trimField (h : FitsField cs) : trimField cs = cs := by
  rw [BoxMin.trimField, h.take, h.trimEnd]

end FitsField

section Tables

theorem Task.word_opens (t : Task) (ht : t ≠ .unknown) :
    ∃ e ∈ fieldWords, e.1.toList <+: t.word.toList ∧ e.2 = t := by
  have hall : ∀ t ∈ Task.all, t ≠ .unknown →
      ∃ e ∈ fieldWords, e.1.toList <+: t.word.toList ∧ e.2 = t := by decide +kernel
  exact hall t t.mem_all ht

theorem unknown_opens_none : ∀ e ∈ fieldWords,
    ¬ e.1.toList <+: Task.unknown.word.toList ∧ ¬ Task.unknown.word.toList <+: e.1.toList := by
  decide +kernel

theorem Task.word_fits (t : Task) :
    t.word.toList.length ≤ 11 ∧
      ∀ h : t.word.toList ≠ [], isPadding (t.word.toList.getLast h) = false := by
  have hall : ∀ t ∈ Task.all, t.word.toList.length ≤ 11 ∧
      ∀ h : t.word.toList ≠ [], isPadding (t.word.toList.getLast h) = false := by decide +kernel
  exact hall t t.mem_all

theorem detailTexts_fit : ∀ e ∈ detailTexts, e.2.toList.length ≤ 44 ∧
    ∃ h : e.2.toList ≠ [], isPadding (e.2.toList.getLast h) = false := by
  decide +kernel

end Tables

theorem taskIn_word_append (t : Task) (rest : List Char) :
    taskIn fieldWords (t.word.toList ++ rest) = t := by
  by_cases ht : t = .unknown
  · subst ht
    refine taskIn_of_no_word fun e he hopens => ?_
    obtain ⟨hshorter, hlonger⟩ := unknown_opens_none e he
    rcases List.prefix_or_prefix_of_prefix hopens (List.prefix_append _ rest) with hle | hle
    · exact hshorter hle
    · exact hlonger hle
  · obtain ⟨e, he, hopens, htask⟩ := t.word_opens ht
    rw [taskIn_of_word he (hopens.trans (List.prefix_append _ rest)), htask]

theorem mem_detailTexts {detail : Int} (h : detailText detail ≠ "") :
    (detail, detailText detail) ∈ detailTexts := by
  unfold detailText at h ⊢
  cases hlookup : detailTexts.lookup detail with
  | none => simp [hlookup] at h
  | some text =>
    obtain ⟨before, after, htable, -⟩ := List.lookup_eq_some_iff.mp hlookup
    rw [htable]
    simp

theorem ofCodes_message (status detail : Int) :
    (Reply.ofCodes status detail).message = (taskOfCode status).word ∨
      ∃ text, (detail, text) ∈ detailTexts ∧
        (Reply.ofCodes status detail).message = (taskOfCode status).word ++ ": " ++ text := by
  unfold Reply.ofCodes
  by_cases hempty : detailText detail = ""
  · exact .inl (by simp [hempty])
  · refine .inr ⟨detailText detail, mem_detailTexts hempty, ?_⟩
    simp [hempty]

theorem ofCodes_fits (status detail : Int) :
    FitsField (Reply.ofCodes status detail).message.toList := by
  obtain ⟨hword, hends⟩ := (taskOfCode status).word_fits
  rcases ofCodes_message status detail with hmessage | ⟨text, hmem, hmessage⟩
  · rw [hmessage]
    exact ⟨by simp only [fieldWidth]; omega, hends⟩
  · obtain ⟨htext, hne, hlast⟩ := detailTexts_fit _ hmem
    dsimp only at htext hne hlast
    rw [hmessage]
    constructor
    · have hcolon : ": ".toList.length = 2 := rfl
      simp only [String.toList_append, List.length_append, hcolon, fieldWidth]
      omega
    · intro h
      simp only [String.toList_append, List.getLast_append_of_ne_nil _ hne]
      exact hlast

theorem ofCodes_task (status detail : Int) :
    taskIn fieldWords (Reply.ofCodes status detail).message.toList = taskOfCode status := by
  rcases ofCodes_message status detail with hmessage | ⟨text, -, hmessage⟩
  · rw [hmessage, ← List.append_nil (taskOfCode status).word.toList]
    exact taskIn_word_append _ _
  · rw [hmessage, String.toList_append, String.toList_append, List.append_assoc]
    exact taskIn_word_append _ _

/-- A pair of whole numbers is always read, and its wording, read as a status field, gives the same
report: neither the width of the field nor its trimming takes anything away. -/
theorem codes_read_back_as_text (status detail : Int) :
    ∃ r, Reply.ofCodesValue (.tuple [.int status, .int detail]) = .ok r ∧
      r.task = taskOfCode status ∧
      (r.message = (taskOfCode status).word ∨
        ∃ text, (detail, text) ∈ detailTexts ∧
          r.message = (taskOfCode status).word ++ ": " ++ text) ∧
      r.message.toList.take fieldWidth = r.message.toList ∧
      trimEnd isPadding r.message.toList = r.message.toList ∧
      Reply.ofFieldValue (.text r.message) = .ok r := by
  have hfits := ofCodes_fits status detail
  refine ⟨Reply.ofCodes status detail, rfl, rfl, ofCodes_message status detail, hfits.take,
    hfits.trimEnd, ?_⟩
  have htrimmed : Reply.ofTrimmed (Reply.ofCodes status detail).message.toList =
      Reply.ofCodes status detail := by
    rw [Reply.ofTrimmed, ofCodes_task, String.ofList_toList]
    rfl
  simp only [Reply.ofFieldValue, Value.toFieldText, hfits.trimField, Except.map, htrimmed]

end BoxMin
