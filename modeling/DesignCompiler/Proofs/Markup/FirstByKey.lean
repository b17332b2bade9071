import DesignCompiler.Markup.Jsx
import Mathlib.Data.List.Nodup
import Mathlib.Tactic.Lemma
import Mathlib.Tactic.SplitIfs
import Mathlib.Tactic.Tauto

/-! Lists in which only the first of those with one key remains. -/
namespace DesignCompiler.Markup

section
variable {α : Type} {key : α → String} {seen seen' : List String} {as : List α}

/-- It does not matter in which order keys were seen. -/
lemma firstByKey_congr (h : ∀ k, k ∈ seen ↔ k ∈ seen') :
    firstByKey key seen as = firstByKey key seen' as := by
  induction as generalizing seen seen' with
  | nil => rfl
  | cons a as ih =>
    have hcontains : seen.contains (key a) = seen'.contains (key a) := by
      rw [Bool.eq_iff_iff, List.contains_iff_mem, List.contains_iff_mem, h]
    have hcons : ∀ k, k ∈ key a :: seen ↔ k ∈ key a :: seen' := by simp [h]
    rw [firstByKey, firstByKey, hcontains, ih h, ih hcons]

lemma firstByKey_append (bs : List α) : firstByKey key seen (as ++ bs) =
    firstByKey key seen as ++ firstByKey key (seen ++ as.map key) bs := by
  induction as generalizing seen with
  | nil => simp [firstByKey]
  | cons a as ih =>
    rw [List.cons_append, firstByKey, firstByKey]
    split
    · next ha =>
      have hseen : key a ∈ seen := List.contains_iff_mem.mp ha
      rw [ih]
      refine congrArg _ (firstByKey_congr fun k => ?_)
      simp only [List.mem_append, List.map_cons, List.mem_cons]
      grind
    · rw [ih, List.cons_append]
      refine congrArg _ (congrArg _ (firstByKey_congr fun k => ?_))
      simp only [List.mem_append, List.map_cons, List.mem_cons]
      tauto

lemma firstByKey_map {β : Type} (f : β → α) (bs : List β) :
    firstByKey key seen (bs.map f) = (firstByKey (fun b => key (f b)) seen bs).map f := by
  induction bs generalizing seen with
  | nil => rfl
  | cons b bs ih =>
    rw [List.map_cons, firstByKey, firstByKey, ih, ih]
    split <;> rfl

lemma firstByKey_sublist (key : α → String) (seen : List String) (as : List α) :
    (firstByKey key seen as).Sublist as := by
  induction as generalizing seen with
  | nil => exact List.Sublist.refl _
  | cons a as ih =>
    rw [firstByKey]
    split
    · exact (ih seen).cons a
    · exact (ih _).cons_cons a

lemma firstByKey_of_nodup (hn : (as.map key).Nodup) (hs : ∀ a ∈ as, key a ∉ seen) :
    firstByKey key seen as = as := by
  induction as generalizing seen with
  | nil => rfl
  | cons a as ih =>
    obtain ⟨ha,has⟩ := List.forall_mem_cons.mp hs
    rw [List.map_cons, List.nodup_cons] at hn
    rw [firstByKey, if_neg (by simpa using ha), ih hn.2]
    intro b hb
    rw [List.mem_cons, not_or]
    exact ⟨fun he => hn.1 (he ▸ List.mem_map_of_mem hb),has b hb⟩

/-- What is listed is the first of all that have its key, and this was not seen before. -/
lemma mem_firstByKey_iff {a : α} :
    a ∈ firstByKey key seen as ↔ key a ∉ seen ∧ as.find? (key · == key a) = some a := by
  induction as generalizing seen with
  | nil => simp [firstByKey]
  | cons b as ih =>
    rw [firstByKey, List.find?_cons]
    by_cases hb : key b = key a
    · split
      · next hseen =>
        rw [hb, List.contains_iff_mem] at hseen
        simp [ih, hseen]
      · next hseen =>
        rw [hb, List.contains_iff_mem] at hseen
        simp [ih, hb, hseen, eq_comm]
    · have hbeq : (key b == key a) = false := beq_eq_false_iff_ne.mpr hb
      have hne : a ≠ b := fun he => hb (congrArg key he.symm)
      split <;> simp [ih, hbeq, hne, Ne.symm hb]

lemma mem_of_mem_firstByKey {a : α} (ha : a ∈ firstByKey key seen as) : a ∈ as :=
  (firstByKey_sublist key seen as).subset ha

/-- What has a key that was not seen before is listed, itself or one before it with the same key. -/
lemma exists_mem_firstByKey {a : α} (ha : a ∈ as) (hs : key a ∉ seen) :
    ∃ b ∈ firstByKey key seen as, key b = key a := by
  have hsome : (as.find? (key · == key a)).isSome = true :=
    List.find?_isSome.mpr ⟨a,ha,BEq.rfl⟩
  obtain ⟨b,hb⟩ := Option.isSome_iff_exists.mp hsome
  have hkey : key b = key a := by simpa using List.find?_some hb
  exact ⟨b,mem_firstByKey_iff.mpr (by rw [hkey]; exact ⟨hs,hb⟩),hkey⟩

/-- No key is listed twice. -/
lemma nodup_firstByKey (key : α → String) (seen : List String) (as : List α) :
    ((firstByKey key seen as).map key).Nodup := by
  induction as generalizing seen with
  | nil => exact List.nodup_nil
  | cons a as ih =>
    rw [firstByKey]
    split
    · exact ih seen
    · rw [List.map_cons, List.nodup_cons]
      refine ⟨?_,ih _⟩
      intro ha
      obtain ⟨b,hb,hkey⟩ := List.mem_map.mp ha
      exact (mem_firstByKey_iff.mp hb).1 (hkey ▸ List.mem_cons_self)

end

end DesignCompiler.Markup
