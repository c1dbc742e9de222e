import BoxMin.Task.Field

/-!
Tables of words, and the texts that begin with them. No text begins with two words of a table
exactly if none of its words begins another one. In such a table the first word that is found is
the only one there is, so its entries may stand in any order.
-/

set_option autoImplicit false

namespace BoxMin

variable {table table' : List (String × Task)}

def openers (table : List (String × Task)) (cs : List Char) : List (String × Task) :=
  table.filter fun e => e.1.toList.isPrefixOf cs

theorem mem_openers {e : String × Task} {cs : List Char} :
    e ∈ openers table cs ↔ e ∈ table ∧ e.1.toList <+: cs := by
  simp [openers]

theorem taskIn_eq_first (table : List (String × Task)) (cs : List Char) :
    taskIn table cs = ((openers table cs).head?.map Prod.snd).getD .unknown := by
  rw [taskIn, openers, List.head?_filter]
  cases table.find? _ <;> rfl

def PrefixFree (table : List (String × Task)) : Prop :=
  table.Pairwise fun e e' => ¬ e.1.toList <+: e'.1.toList ∧ ¬ e'.1.toList <+: e.1.toList

instance (table : List (String × Task)) : Decidable (PrefixFree table) :=
  inferInstanceAs (Decidable (table.Pairwise _))

theorem two_openers {e e' : String × Task} {cs : List Char} (hpair : [e, e'].Sublist table)
    (h : e.1.toList <+: cs) (h' : e'.1.toList <+: cs) : 2 ≤ (openers table cs).length := by
  have hsub := hpair.filter fun e => e.1.toList.isPrefixOf cs
  rw [List.filter_eq_self.mpr (by simp [h, h'])] at hsub
  exact hsub.length_le

theorem prefixFree_iff : PrefixFree table ↔ ∀ cs, (openers table cs).length ≤ 1 := by
  constructor
  · intro h cs
    have hapart := List.Pairwise.filter (fun e => e.1.toList.isPrefixOf cs) h
    have hfront : ∀ e ∈ openers table cs, e.1.toList <+: cs := fun e he => (mem_openers.mp he).2
    rw [← openers] at hapart
    generalize openers table cs = found at hapart hfront ⊢
    rcases found with _ | ⟨e, _ | ⟨e', rest⟩⟩
    · simp
    · simp
    · -- Of two words at the front of one text the shorter begins the longer.
      obtain ⟨hshorter, hlonger⟩ := List.rel_of_pairwise_cons hapart List.mem_cons_self
      have hle := List.prefix_or_prefix_of_prefix (hfront e (by simp)) (hfront e' (by simp))
      exact (hle.elim hshorter hlonger).elim
  · intro h
    -- A word that another one begins is itself a text with two words at its front.
    refine List.pairwise_iff_forall_sublist.mpr fun {e e'} hpair => ⟨fun hle => ?_, fun hle => ?_⟩
    · have htwo := two_openers hpair hle List.prefix_rfl
      have hone := h e'.1.toList
      omega
    · have htwo := two_openers hpair List.prefix_rfl hle
      have hone := h e.1.toList
      omega

namespace PrefixFree

theorem openers_cases (h : PrefixFree table) (cs : List Char) :
    openers table cs = [] ∨ ∃ e ∈ table, openers table cs = [e] := by
  rcases Nat.le_one_iff_eq_zero_or_eq_one.mp (prefixFree_iff.mp h cs) with hnone | hone
  · exact .inl (List.length_eq_zero_iff.mp hnone)
  · obtain ⟨e, hopeners⟩ := List.length_eq_one_iff.mp hone
    have he : e ∈ openers table cs := by simp [hopeners]
    exact .inr ⟨e, (mem_openers.mp he).1, hopeners⟩

theorem taskIn_of_mem (h : PrefixFree table) {e : String × Task} {cs : List Char}
    (he : e ∈ openers table cs) : taskIn table cs = e.2 := by
  rw [taskIn_eq_first]
  rcases h.openers_cases cs with hnone | ⟨e', -, hone⟩
  · simp [hnone] at he
  · rw [hone] at he ⊢
    rw [List.mem_singleton.mp he]
    rfl

theorem openers_perm (h : PrefixFree table) (hperm : table'.Perm table) (cs : List Char) :
    openers table' cs = openers table cs := by
  have hopeners : (openers table' cs).Perm (openers table cs) := hperm.filter _
  rcases h.openers_cases cs with hnone | ⟨e, -, hone⟩
  · rw [hnone] at hopeners ⊢
    exact hopeners.eq_nil
  · rw [hone] at hopeners ⊢
    exact hopeners.eq_singleton

theorem taskIn_perm (h : PrefixFree table) (hperm : table'.Perm table) (cs : List Char) :
    taskIn table' cs = taskIn table cs := by
  rw [taskIn_eq_first, taskIn_eq_first, h.openers_perm hperm]

theorem taskIn_ne_unknown_iff (h : PrefixFree table) (htask : ∀ e ∈ table, e.2 ≠ .unknown)
    (cs : List Char) : taskIn table cs ≠ .unknown ↔ (openers table cs).length = 1 := by
  rw [taskIn_eq_first]
  rcases h.openers_cases cs with hnone | ⟨e, he, hone⟩
  · simp [hnone]
  · simp [hone, htask e he]

end PrefixFree

end BoxMin
