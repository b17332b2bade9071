import Mathlib.Data.Nat.Notation
import Mathlib.Tactic.Lemma
import Mathlib.Tactic.SplitIfs

/-! The words of a text: the runs of characters between those that separate. Words that are put
together with a separator are told apart again. -/
namespace DesignCompiler.Text

section
variable {p : Char → Bool} {cs w : List Char} {ws : List (List Char)}

/-- No part of a text contains a character that separates. -/
lemma forall_mem_of_mem_splitOnP (hw : w ∈ cs.splitOnP p) : ∀ c ∈ w, p c = false := by
  induction cs generalizing w with
  | nil =>
    rw [List.splitOnP_nil, List.mem_singleton] at hw
    exact hw ▸ List.forall_mem_nil _
  | cons c cs ih =>
    obtain ⟨v,vs,hsplit⟩ := List.exists_cons_of_ne_nil (List.splitOnP_ne_nil p cs)
    rw [hsplit] at ih
    rw [List.splitOnP_cons_eq_if_modifyHead, hsplit, List.modifyHead_cons] at hw
    split_ifs at hw with hc
    · obtain rfl | hw := List.mem_cons.mp hw
      · exact List.forall_mem_nil _
      · exact ih hw
    · obtain rfl | hw := List.mem_cons.mp hw
      · exact List.forall_mem_cons.mpr ⟨eq_false_of_ne_true hc,ih List.mem_cons_self⟩
      · exact ih (List.mem_cons_of_mem v hw)

/-- The words of a text in which some characters separate. -/
def words (p : Char → Bool) (cs : List Char) : List (List Char) :=
  (cs.splitOnP p).filter (!·.isEmpty)

lemma of_mem_words (hw : w ∈ words p cs) : w ≠ [] ∧ ∀ c ∈ w, p c = false := by
  obtain ⟨hw,hne⟩ := List.mem_filter.mp hw
  exact ⟨by simpa using hne,forall_mem_of_mem_splitOnP hw⟩

/-- A separator ends a word and begins another. -/
lemma words_append_cons {c : Char} (hc : p c = true) (as bs : List Char) :
    words p (as ++ c :: bs) = words p as ++ words p bs := by
  rw [words, List.splitOnP_append_cons as bs hc, List.filter_append]
  rfl

lemma words_eq_singleton (hne : w ≠ []) (hw : ∀ c ∈ w, p c = false) : words p w = [w] := by
  rw [words, List.splitOnP_eq_singleton hw]
  exact List.filter_cons_of_pos (by simpa using hne)

/-- Words that are put together with separators are told apart again. -/
theorem words_intercalate {c : Char} (hc : p c = true)
    (h : ∀ w ∈ ws, w ≠ [] ∧ ∀ c ∈ w, p c = false) : words p ([c].intercalate ws) = ws := by
  induction ws with
  | nil => rfl
  | cons w ws ih =>
    obtain ⟨⟨hne,hw⟩,hws⟩ := List.forall_mem_cons.mp h
    cases ws with
    | nil => rw [List.intercalate_singleton, words_eq_singleton hne hw]
    | cons v vs =>
      rw [List.intercalate_cons_cons, List.append_assoc, List.singleton_append,
        words_append_cons hc, words_eq_singleton hne hw, ih hws]
      rfl

/-- What stands in words that are put together. -/
lemma mem_intercalate {a c : Char} : a ∈ [c].intercalate ws ↔
    (∃ w ∈ ws, a ∈ w) ∨ a = c ∧ 1 < ws.length := by
  induction ws with
  | nil => simp
  | cons w ws ih =>
    cases ws with
    | nil => simp
    | cons v vs =>
      rw [List.intercalate_cons_cons, List.append_assoc, List.mem_append, List.mem_append, ih]
      simp only [List.length_cons, List.mem_cons, exists_eq_or_imp]
      grind

/-- Characters that are changed without regard to whether they separate. -/
lemma words_map {f : Char → Char} (hf : ∀ c, p (f c) = p c) (cs : List Char) :
    words p (cs.map f) = (words p cs).map (List.map f) := by
  have hsplit : (cs.map f).splitOnP p = (cs.splitOnP p).map (List.map f) := by
    induction cs with
    | nil => rfl
    | cons c cs ih =>
      obtain ⟨v,vs,hvs⟩ := List.exists_cons_of_ne_nil (List.splitOnP_ne_nil p cs)
      rw [List.map_cons, List.splitOnP_cons_eq_if_modifyHead, List.splitOnP_cons_eq_if_modifyHead,
        ih, hf, hvs]
      split <;> rfl
  rw [words, words, hsplit, List.filter_map]
  congr 1
  refine List.filter_congr fun w _ => ?_
  cases w <;> rfl

end

end DesignCompiler.Text
