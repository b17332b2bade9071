import DesignCompiler.Text.Blank
import Mathlib.Data.List.DropRight

/-! Trimming. A trimmed text begins and ends with a character that is not blank, and blanks put
around a text do not change what trimming leaves of it. -/
namespace DesignCompiler.Text

lemma trimChars_eq_rdropWhile (cs : List Char) :
    trimChars cs = (cs.dropWhile isBlank).rdropWhile isBlank := rfl

theorem trimChars_append_left {ws : List Char} (h : allBlank ws = true) (cs : List Char) :
    trimChars (ws ++ cs) = trimChars cs := by
  have hw : ∀ c ∈ ws, isBlank c = true := List.all_eq_true.mp h
  simp only [trimChars_eq_rdropWhile, List.dropWhile_append_of_pos hw]

/-- The first and the last character decide whether a text is trimmed. -/
theorem trimChars_eq_self {cs : List Char} (hf : ∀ c, cs.head? = some c → isBlank c = false)
    (hl : ∀ c, cs.getLast? = some c → isBlank c = false) : trimChars cs = cs := by
  have hd : cs.dropWhile isBlank = cs := by
    cases cs with
    | nil => rfl
    | cons c cs => simp [hf c rfl]
  rw [trimChars_eq_rdropWhile, hd, List.rdropWhile_eq_self_iff]
  intro hne hb
  rw [hl _ (List.getLast?_eq_some_getLast hne)] at hb
  contradiction

theorem trimChars_of_forall {cs : List Char} (h : ∀ c ∈ cs, isBlank c = false) :
    trimChars cs = cs :=
  trimChars_eq_self (fun _ hc => h _ (List.mem_of_mem_head? hc))
    (fun _ hc => h _ (List.mem_of_getLast? hc))

lemma isBlank_of_isDigit {c : Char} (h : c.isDigit = true) : isBlank c = false := by
  have hd := Char.isDigit_iff_toNat.mp h
  have h0 : '0'.toNat = 48 := rfl
  have h9 : '9'.toNat = 57 := rfl
  simp only [isBlank, Bool.or_eq_false_iff, Bool.and_eq_false_iff, decide_eq_false_iff_not,
    beq_eq_false_iff_ne]
  omega

lemma isBlank_head_trimChars {cs : List Char} {c : Char} (h : (trimChars cs).head? = some c) :
    isBlank c = false := by
  rw [trimChars_eq_rdropWhile] at h
  obtain ⟨ws, hw⟩ := List.rdropWhile_prefix isBlank (cs.dropWhile isBlank)
  have hd : (cs.dropWhile isBlank).head? = some c := by
    rw [← hw, List.head?_append, h]
    rfl
  have hn := List.head?_dropWhile_not isBlank cs
  rw [hd] at hn
  simpa using hn

lemma isBlank_getLast_trimChars {cs : List Char} {c : Char}
    (h : (trimChars cs).getLast? = some c) : isBlank c = false := by
  rw [trimChars_eq_rdropWhile] at h
  have hne : (cs.dropWhile isBlank).rdropWhile isBlank ≠ [] := by
    intro he
    rw [he] at h
    contradiction
  have hn := List.rdropWhile_last_not isBlank _ hne
  rw [List.getLast?_eq_some_getLast hne, Option.some.injEq] at h
  rw [h] at hn
  simpa using hn

/-- Trimming twice is trimming once. -/
@[simp] theorem trimChars_trimChars (cs : List Char) : trimChars (trimChars cs) = trimChars cs :=
  trimChars_eq_self (fun _ => isBlank_head_trimChars) (fun _ => isBlank_getLast_trimChars)

lemma trimChars_subset (cs : List Char) : trimChars cs ⊆ cs := by
  intro c hc
  rw [trimChars_eq_rdropWhile] at hc
  exact List.dropWhile_subset isBlank ((List.rdropWhile_prefix isBlank _).subset hc)

/-- A trimmed text stays trimmed when its beginning is another one. -/
theorem trimChars_append {xs ys : List Char} (hx : trimChars xs = xs) (hy : trimChars ys = ys)
    (hxn : xs ≠ []) (hyn : ys ≠ []) (ws : List Char) :
    trimChars (xs ++ ws ++ ys) = xs ++ ws ++ ys := by
  apply trimChars_eq_self
  · intro c hc
    rw [List.append_assoc, List.head?_append_of_ne_nil _ hxn, ← hx] at hc
    exact isBlank_head_trimChars hc
  · intro c hc
    rw [List.getLast?_append_of_ne_nil _ hyn, ← hy] at hc
    exact isBlank_getLast_trimChars hc

end DesignCompiler.Text
