import Mathlib.InformationTheory.Coding.UniquelyDecodable
import Mathlib.Tactic.Lemma

/-! Texts that are put together from pieces. They are taken apart in one way when no piece begins
with another one, or by a reader that takes one item at a time. -/
namespace DesignCompiler.Text
open InformationTheory

/-! ## Pieces of which none begins with another -/

section
variable {α β : Type}

/-- Pieces that are not empty, and of which none begins with another, make different texts from
different lists of them. -/
theorem uniquelyDecodable_of_prefixFree {S : Set (List α)} (hne : [] ∉ S)
    (hfree : ∀ v ∈ S, ∀ w ∈ S, v <+: w → v = w) : UniquelyDecodable S := by
  intro vs ws hvs hws heq
  induction vs generalizing ws with
  | nil =>
    cases ws with
    | nil => rfl
    | cons w ws =>
      have hw : w = [] := (List.append_eq_nil_iff.mp heq.symm).1
      exact absurd (hw ▸ hws w List.mem_cons_self) hne
  | cons v vs ih =>
    rw [List.forall_mem_cons] at hvs
    cases ws with
    | nil =>
      have hv' : v = [] := (List.append_eq_nil_iff.mp heq).1
      exact absurd (hv' ▸ hvs.1) hne
    | cons w ws =>
      rw [List.forall_mem_cons] at hws
      rw [List.flatten_cons, List.flatten_cons] at heq
      -- both first pieces begin the same text, so that one begins with the other
      have hfirst : v = w := by
        obtain h | h := List.prefix_or_prefix_of_prefix (List.prefix_append v vs.flatten)
          (heq ▸ List.prefix_append w ws.flatten)
        · exact hfree v hvs.1 w hws.1 h
        · exact (hfree w hws.1 v hvs.1 h).symm
      subst hfirst
      rw [ih ws hvs.2 hws.2 (List.append_cancel_left heq)]

/-- A text that has a piece for each item determines the items. -/
theorem flatMap_injective {f : α → List β} (hne : ∀ a, f a ≠ [])
    (hfree : ∀ a b, f a <+: f b → a = b) : Function.Injective (List.flatMap f) := by
  have hcode : UniquelyDecodable (Set.range f) := by
    refine uniquelyDecodable_of_prefixFree ?_ ?_
    · rintro ⟨a,ha⟩
      exact hne a ha
    · rintro _ ⟨a,rfl⟩ _ ⟨b,rfl⟩ h
      rw [hfree a b h]
  have hinj : Function.Injective f := fun a b h => hfree a b (h ▸ List.prefix_rfl)
  intro as bs h
  rw [List.flatMap_def, List.flatMap_def] at h
  refine (List.map_inj_right hinj).mp (hcode _ _ ?_ ?_ h)
  all_goals exact List.forall_mem_map.mpr fun a _ => Set.mem_range_self a

end

/-! ## Readers of one item -/

section
variable {α : Type} {step : List Char → Option (α × List Char)}

/-- Read a text item by item until nothing is left of it. An item takes a character at least. -/
def readAll? (step : List Char → Option (α × List Char)) (cs : List Char) : Option (List α) :=
  if cs = [] then some []
  else
    match step cs with
    | some (a,rest) => if rest.length < cs.length then (readAll? step rest).map (a :: ·) else none
    | none => none
termination_by cs.length

@[simp] lemma readAll?_nil : readAll? step [] = some [] := by
  rw [readAll?, if_pos rfl]

/-- Where the beginning is read as an item under some condition only, and the rest is then shorter, the
text is read as a list with that item in front exactly if the condition holds and the rest is read as
what comes after it. -/
lemma readAll?_eq_cons_iff {cs rest : List Char} {a : α} {as : List α} {p : Prop}
    (hlt : rest.length < cs.length) (hstep : ∀ rest', step cs = some (a,rest') ↔ p ∧ rest' = rest) :
    readAll? step cs = some (a :: as) ↔ p ∧ readAll? step rest = some as := by
  have hcs : cs ≠ [] := by
    rintro rfl
    exact absurd hlt (Nat.not_lt_zero _)
  rw [readAll?, if_neg hcs]
  constructor
  · intro h
    split at h
    · next b rest' hb =>
      split at h
      · obtain ⟨bs,hbs,he⟩ := Option.map_eq_some_iff.mp h
        cases he
        obtain ⟨hp,rfl⟩ := (hstep rest').mp hb
        exact ⟨hp,hbs⟩
      · contradiction
    · contradiction
  · rintro ⟨hp,hrest⟩
    simp only [(hstep rest).mpr ⟨hp,rfl⟩, if_pos hlt, hrest, Option.map_some]

end

/-! ## Texts inside others -/

/-- Each of some texts stands in the text that is put together from them. -/
lemma infix_intercalate {sep l : String} {ls : List String} (h : l ∈ ls) :
    l.toList <:+: (sep.intercalate ls).toList := by
  induction ls with
  | nil => nomatch h
  | cons m ls ih =>
    cases ls with
    | nil =>
      obtain rfl := List.mem_singleton.mp h
      simp
    | cons m' ls =>
      rw [String.intercalate_cons_of_ne_nil (List.cons_ne_nil _ _), String.toList_append,
        String.toList_append]
      obtain rfl | h := List.mem_cons.mp h
      · rw [List.append_assoc]
        exact (List.prefix_append _ _).isInfix
      · exact (ih h).trans (List.suffix_append _ _).isInfix

end DesignCompiler.Text
