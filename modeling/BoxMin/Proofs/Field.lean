import BoxMin.Proofs.Reply

set_option autoImplicit false

namespace BoxMin

theorem trimEnd_append {drop : Char → Bool} (cs : List Char) {tail : List Char}
    (h : ∀ c ∈ tail, drop c = true) : trimEnd drop (cs ++ tail) = trimEnd drop cs := by
  have hfront : ∀ c ∈ tail.reverse, drop c = true := fun c hc => h c (List.mem_reverse.mp hc)
  rw [trimEnd, trimEnd, List.reverse_append, List.dropWhile_append_of_pos hfront]

theorem trimEnd_trimEnd (drop : Char → Bool) (cs : List Char) :
    trimEnd drop (trimEnd drop cs) = trimEnd drop cs :=
  List.rdropWhile_idempotent drop cs

theorem length_trimEnd_le (drop : Char → Bool) (cs : List Char) :
    (trimEnd drop cs).length ≤ cs.length := by
  obtain ⟨tail, hcs, -⟩ := exists_trimEnd drop cs
  have hlength := congrArg List.length hcs
  rw [List.length_append] at hlength
  omega

theorem trimField_fits (cs : List Char) : FitsField (trimField cs) where
  width := by
    have hcut := length_trimEnd_le isPadding (cs.take fieldWidth)
    rw [List.length_take] at hcut
    exact hcut.trans (Nat.min_le_left ..)
  ends := trimEnd_eq_self_iff.mp (trimEnd_trimEnd isPadding (cs.take fieldWidth))

@[simp] theorem trimField_take (cs : List Char) :
    trimField (cs.take fieldWidth) = trimField cs := by
  simp [trimField, List.take_take]

@[simp] theorem fieldText_take (bytes : List UInt8) :
    fieldText (bytes.take fieldWidth) = fieldText bytes := by
  simp [fieldText, List.map_take]

section Padded

variable {cs padding rest : List Char}

theorem take_padded (hwidth : cs.length ≤ fieldWidth)
    (hrest : rest = [] ∨ fieldWidth ≤ cs.length + padding.length) :
    (cs ++ padding ++ rest).take fieldWidth =
      cs ++ padding.take (fieldWidth - cs.length) := by
  rw [List.append_assoc, List.take_append, List.take_of_length_le hwidth]
  congr 1
  rcases hrest with rfl | hfull
  · rw [List.append_nil]
  · exact List.take_append_of_le_length (by omega)

theorem FitsField.trimField_padded (h : FitsField cs) (hpadding : ∀ c ∈ padding, isPadding c = true)
    (hrest : rest = [] ∨ fieldWidth ≤ cs.length + padding.length) :
    BoxMin.trimField (cs ++ padding ++ rest) = cs := by
  have hcut : ∀ c ∈ padding.take (fieldWidth - cs.length), isPadding c = true :=
    fun c hc => hpadding c (List.mem_of_mem_take hc)
  rw [BoxMin.trimField, take_padded h.width hrest, trimEnd_append cs hcut, h.trimEnd]

end Padded

def Value.fieldChars? : Value → Option (List Char)
  | .text s => some s.toList
  | .bytes bs => some (bs.map fieldChar)
  | _ => none

theorem toFieldText_of_chars {v : Value} {cs : List Char} (h : v.fieldChars? = some cs) :
    v.toFieldText = .ok (trimField cs) := by
  cases v with
  | text | bytes =>
    cases h
    rfl
  | _ => cases h

theorem toFieldText_trimmed (cs : List Char) :
    (Value.text (String.ofList (trimField cs))).toFieldText = .ok (trimField cs) := by
  rw [Value.toFieldText, String.toList_ofList, (trimField_fits cs).trimField]

/-- Trimming undoes padding: a text that fits the field comes back from behind any padding, with
the same task, also when the padding or what follows it goes beyond the field. All that is trimmed
fits the field and stays as it is when it is trimmed again. Bytes may be cut to the width of the
field before they are read. -/
theorem trimming_undoes_padding :
    (∀ s padding rest : String, FitsField s.toList → (∀ c ∈ padding.toList, isPadding c = true) →
      (rest = "" ∨ fieldWidth ≤ s.length + padding.length) →
      (Value.text (s ++ padding ++ rest)).toFieldText = .ok s.toList ∧
      Reply.ofFieldValue (.text (s ++ padding ++ rest)) = Reply.ofFieldValue (.text s)) ∧
    (∀ (v : Value) (cs : List Char), v.fieldChars? = some cs →
      ∃ trimmed, v.toFieldText = .ok trimmed ∧
        trimmed.length ≤ fieldWidth ∧
        (∀ h : trimmed ≠ [], isPadding (trimmed.getLast h) = false) ∧
        (Value.text (String.ofList trimmed)).toFieldText = .ok trimmed) ∧
    ∀ bytes : List UInt8,
      (Value.bytes bytes).toFieldText =
        .ok (trimEnd isPadding ((bytes.map fieldChar).take fieldWidth)) ∧
      (Value.bytes (bytes.take fieldWidth)).toFieldText = (Value.bytes bytes).toFieldText := by
  refine ⟨fun s padding rest hs hpadding hrest => ?_, fun v cs hcs => ?_, fun bytes => ?_⟩
  · have hrest' : rest.toList = [] ∨ fieldWidth ≤ s.toList.length + padding.toList.length := by
      simpa only [String.toList_eq_nil_iff, String.length_toList] using hrest
    have htrim : trimField (s ++ padding ++ rest).toList = trimField s.toList := by
      rw [String.toList_append, String.toList_append, hs.trimField_padded hpadding hrest',
        hs.trimField]
    have htext : (Value.text (s ++ padding ++ rest)).toFieldText = (Value.text s).toFieldText :=
      congrArg Except.ok htrim
    refine ⟨?_, congrArg (Except.map Reply.ofTrimmed) htext⟩
    rw [htext, Value.toFieldText, hs.trimField]
  · have hfits := trimField_fits cs
    exact ⟨trimField cs, toFieldText_of_chars hcs, hfits.width, hfits.ends, toFieldText_trimmed cs⟩
  · exact ⟨rfl, congrArg Except.ok (fieldText_take bytes)⟩

theorem mixed_padding_undone :
    (Value.text ("FG_LNSRCH" ++ String.ofList (List.replicate 26 ' ' ++
      List.replicate 26 (Char.ofNat 0)) ++ "NEW_X")).toFieldText = .ok "FG_LNSRCH".toList ∧
    (Value.text (String.ofList (List.replicate 60 'E') ++ "" ++ "!")).toFieldText =
      .ok (String.ofList (List.replicate 60 'E')).toList :=
  ⟨(trimming_undoes_padding.1 "FG_LNSRCH" _ "NEW_X" ⟨by decide, by decide⟩ (by simp [isPadding])
      (.inr (by decide))).1,
    (trimming_undoes_padding.1 (String.ofList (List.replicate 60 'E')) "" "!"
      ⟨by decide, by decide⟩ (by simp) (.inr (by decide))).1⟩

end BoxMin
