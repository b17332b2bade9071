import DesignCompiler.Text.Lines
import Mathlib.Tactic.Lemma

/-! The lines of a text: there is at least one, none holds a line feed, and every such list is the
list of lines of its text. -/
namespace DesignCompiler.Text

/-- The characters of a list are checked one by one. As there are finitely many characters, a
decision might go through all of them instead. -/
instance decidableForallMem (P : Char → Prop) [DecidablePred P] (cs : List Char) :
    Decidable (∀ c ∈ cs, P c) := List.decidableBAll P cs

/-- A text begins as what it is continued from. -/
lemma head?_toList_append {t : String} {c : Char} (ht : t.toList.head? = some c) (u : String) :
    (t ++ u).toList.head? = some c := by
  rw [String.toList_append, List.head?_append, ht, Option.some_or]

/-- A text that stands on one line. -/
def OneLine (l : String) : Prop := '\n' ∉ l.toList

instance (l : String) : Decidable (OneLine l) := inferInstanceAs (Decidable (¬ _))

/-- A text is cut where a character stands first. -/
lemma cutAt_append {c : Char} {as : List Char} (h : c ∉ as) (bs : List Char) :
    cutAt c (as ++ c :: bs) = some (as,bs) := by
  have hpass : ∀ d ∈ as, (d != c) = true := by
    intro d hd
    rw [bne_iff_ne]
    rintro rfl
    exact h hd
  rw [cutAt, List.dropWhile_append_of_pos hpass, List.takeWhile_append_of_pos hpass]
  simp

lemma notMem_of_mem_splitOn {c : Char} {cs w : List Char} (h : w ∈ cs.splitOn c) : c ∉ w := by
  by_cases hc : c ∈ cs
  · obtain ⟨as,bs,rfl,ha⟩ := List.eq_append_cons_of_mem hc
    rw [List.splitOn_append_cons_self_of_not_mem ha, List.mem_cons] at h
    rcases h with rfl | h
    · exact ha
    · exact notMem_of_mem_splitOn h
  · rw [List.splitOn_eq_singleton hc, List.mem_singleton] at h
    rw [h]
    exact hc
termination_by cs.length

theorem oneLine_of_mem_lines {s l : String} (h : l ∈ lines s) : OneLine l := by
  obtain ⟨w,hw,rfl⟩ := List.mem_map.mp h
  rw [OneLine, String.toList_ofList]
  exact notMem_of_mem_splitOn hw

theorem lines_ne_nil (s : String) : lines s ≠ [] := by
  simp [lines, List.splitOn_ne_nil]

/-- Lines that are put together and taken apart again are the same lines. -/
theorem lines_ofLines_of_oneLine {ls : List String} (hne : ls ≠ []) (h : ∀ l ∈ ls, OneLine l) :
    lines (ofLines ls) = ls := lines_ofLines ls hne h

/-- No line at all and one empty line make the same text. -/
lemma lines_ofLines_nil : lines (ofLines []) = [""] := rfl

@[simp] lemma oneLine_empty : OneLine "" := by simp [OneLine]

lemma oneLine_append {s t : String} : OneLine (s ++ t) ↔ OneLine s ∧ OneLine t := by
  simp [OneLine, not_or]

end DesignCompiler.Text
