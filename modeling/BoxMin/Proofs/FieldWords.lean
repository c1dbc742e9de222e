import BoxMin.Proofs.Field

set_option autoImplicit false

namespace BoxMin

theorem fieldWords_task : ∀ e ∈ fieldWords, e.2 ≠ .unknown := by
  decide

def Reply.ofFieldValueBy (table : List (String × Task)) (v : Value) : Except Fault Reply :=
  v.toFieldText.map fun cs => ⟨taskIn table cs, String.ofList cs⟩

theorem Reply.ofFieldValueBy_fieldWords (v : Value) :
    Reply.ofFieldValueBy fieldWords v = Reply.ofFieldValue v := rfl

theorem PrefixFree.ofFieldValueBy_perm {table table' : List (String × Task)} (h : PrefixFree table)
    (hperm : table'.Perm table) (v : Value) :
    Reply.ofFieldValueBy table' v = Reply.ofFieldValueBy table v := by
  simp only [Reply.ofFieldValueBy, h.taskIn_perm hperm]

theorem ofFieldValue_of_chars {v : Value} {cs : List Char} (h : v.fieldChars? = some cs) :
    Reply.ofFieldValue v = .ok (.ofTrimmed (trimField cs)) := by
  rw [Reply.ofFieldValue, toFieldText_of_chars h]
  rfl

theorem mem_openers_trimField {e : String × Task} {cs : List Char} :
    e ∈ openers fieldWords (trimField cs) ↔ e ∈ fieldWords ∧ e.1.toList <+: cs := by
  refine mem_openers.trans (and_congr_right fun he => ?_)
  exact prefix_trimField_iff (fieldWords_unpadded e he) (fieldWords_short e he)

theorem ofTrimmed_task_of_word {e : String × Task} {cs : List Char} (he : e ∈ fieldWords)
    (h : e.1.toList <+: cs) : (Reply.ofTrimmed (trimField cs)).task = e.2 :=
  taskIn_of_word he (mem_openers.mp (mem_openers_trimField.mpr ⟨he, h⟩)).2

/-- A status field of text or bytes is always read. At most one word of the table stands at the
front of its trimmed text, and the report has a task exactly if one does: the task of that word,
also when anything is put behind the field or behind the word. The table may stand in any order. -/
theorem one_word_tells_task :
    (∀ (v : Value) (cs : List Char), v.fieldChars? = some cs →
      ∃ text r, v.toFieldText = .ok text ∧ Reply.ofFieldValue v = .ok r ∧
        r.message = String.ofList text ∧
        (openers fieldWords text).length ≤ 1 ∧
        (r.task ≠ .unknown ↔ (openers fieldWords text).length = 1) ∧
        ∀ e ∈ openers fieldWords text, r.task = e.2 ∧
          ∀ (v' : Value) (rest : List Char),
            v'.fieldChars? = some (cs ++ rest) ∨ v'.fieldChars? = some (e.1.toList ++ rest) →
            ∃ r', Reply.ofFieldValue v' = .ok r' ∧ r'.task = r.task) ∧
    ∀ table : List (String × Task), table.Perm fieldWords →
      ∀ v, Reply.ofFieldValueBy table v = Reply.ofFieldValue v := by
  refine ⟨fun v cs hcs => ?_, fun table hperm v => ?_⟩
  · refine ⟨trimField cs, .ofTrimmed (trimField cs), toFieldText_of_chars hcs,
      ofFieldValue_of_chars hcs, rfl, prefixFree_iff.mp fieldWords_prefixFree _,
      fieldWords_prefixFree.taskIn_ne_unknown_iff fieldWords_task _, fun e he => ?_⟩
    obtain ⟨hmem, hfront⟩ := mem_openers_trimField.mp he
    have htask := ofTrimmed_task_of_word hmem hfront
    refine ⟨htask, fun v' rest hv' => ?_⟩
    obtain ⟨cs', hcs', hfront'⟩ : ∃ cs', v'.fieldChars? = some cs' ∧ e.1.toList <+: cs' := by
      rcases hv' with hv' | hv'
      · exact ⟨cs ++ rest, hv', hfront.trans (List.prefix_append cs rest)⟩
      · exact ⟨e.1.toList ++ rest, hv', List.prefix_append _ rest⟩
    refine ⟨.ofTrimmed (trimField cs'), ofFieldValue_of_chars hcs', ?_⟩
    rw [ofTrimmed_task_of_word hmem hfront', htask]
  · rw [fieldWords_prefixFree.ofFieldValueBy_perm hperm, Reply.ofFieldValueBy_fieldWords]

theorem restart_told_before_start :
    (∃ r r', Reply.ofFieldValue (.bytes (textBytes "RESTART" ++ [32, 0])) = .ok r ∧
      r.task = .restart ∧
      Reply.ofFieldValue (.bytes (textBytes "RESTART" ++ [32, 0] ++ textBytes "START")) = .ok r' ∧
      r'.task = .restart) ∧
    Reply.ofFieldValueBy fieldWords.reverse (.text "RESTART_FROM_LNSRCH") =
      Reply.ofFieldValue (.text "RESTART_FROM_LNSRCH") := by
  obtain ⟨text, r, htext, hr, -, -, -, htells⟩ :=
    one_word_tells_task.1 (.bytes (textBytes "RESTART" ++ [32, 0])) _ rfl
  have hopens : ("RESTART", Task.restart) ∈ openers fieldWords text := by
    cases htext
    exact mem_openers.mpr ⟨by decide, by decide⟩
  obtain ⟨htask, hbehind⟩ := htells _ hopens
  obtain ⟨r', hr', hsame⟩ := hbehind (.bytes (textBytes "RESTART" ++ [32, 0] ++ textBytes "START"))
    "START".toList (.inl (by decide))
  exact ⟨⟨r, r', hr, htask, hr', hsame.trans htask⟩,
    one_word_tells_task.2 fieldWords.reverse (List.reverse_perm fieldWords) _⟩

end BoxMin
