import DesignCompiler.Proofs.Json.Table
import DesignCompiler.Proofs.Naming.Fresh
import DesignCompiler.Styling.Collector

/-! The names and the definitions of a style collector after a name is reserved and a definition is
set. -/
namespace DesignCompiler

namespace Styling.StyleCollector
open Json.Decoder

lemma get?_insert (c : StyleCollector) (name source m : String) :
    (c.insert name source).get? m = if name = m then some source else c.get? m := by
  rw [get?, insert, find?_putEntry]
  split <;> rfl

lemma reserve_of_named {c : StyleCollector} {id name : String} (h : c.nameFor? id = some name)
    (wanted : String) : c.reserve id wanted = (c,name) := by
  simp only [reserve, h]

lemma reserve_of_unnamed {c : StyleCollector} {id : String} (h : c.nameFor? id = none)
    (wanted : String) : c.reserve id wanted =
      ({ c with assigned := c.assigned ++ [(id,Naming.fresh c.usedNames wanted)] },
        Naming.fresh c.usedNames wanted) := by
  simp only [reserve, h]

/-- Reserving a name gives it to the element, and to no other one. -/
lemma nameFor?_reserve (c : StyleCollector) (id wanted m : String) :
    (c.reserve id wanted).1.nameFor? m =
      if id = m then some (c.reserve id wanted).2 else c.nameFor? m := by
  cases hn : c.nameFor? id with
  | some name =>
    rw [reserve_of_named hn]
    split
    · next h => rw [← h, hn]
    · rfl
  | none =>
    rw [reserve_of_unnamed hn]
    rw [nameFor?, Option.map_eq_none_iff] at hn
    unfold nameFor?
    rw [List.find?_append]
    by_cases h : id = m
    · rw [← h, hn]
      simp
    · simp [h]

/-- What holds of all names that a collector has given, and of the wanted name in every fresh form,
holds of all names once one is reserved. -/
lemma forall_names_reserve {P : String → Prop} {c : StyleCollector}
    (hc : ∀ name ∈ c.assigned.map (·.2), P name) (id : String) {wanted : String}
    (hw : ∀ used, P (Naming.fresh used wanted)) :
    (∀ name ∈ (c.reserve id wanted).1.assigned.map (·.2), P name) ∧ P (c.reserve id wanted).2 := by
  cases hn : c.nameFor? id with
  | some name =>
    rw [reserve_of_named hn]
    exact ⟨hc,hc _ (List.mem_map_of_mem (f := (·.2)) (mem_of_lookup hn))⟩
  | none =>
    rw [reserve_of_unnamed hn]
    refine ⟨?_,hw _⟩
    rw [List.map_append]
    exact List.forall_mem_append.mpr ⟨hc,List.forall_mem_singleton.mpr (hw _)⟩

lemma definitions_reserve (c : StyleCollector) (id wanted : String) :
    (c.reserve id wanted).1.definitions = c.definitions := by
  unfold reserve
  split <;> rfl

/-- Every name that an element has got is that of a definition. -/
def Sound (c : StyleCollector) : Prop :=
  ∀ id name, c.nameFor? id = some name → (c.get? name).isSome

lemma sound_empty : empty.Sound := fun _ _ h => nomatch h

lemma Sound.define {c : StyleCollector} (hc : c.Sound) (id wanted source : String) :
    ((c.reserve id wanted).1.insert (c.reserve id wanted).2 source).Sound := by
  intro m name hm
  rw [get?_insert]
  split
  · rfl
  · next hne =>
    change (c.reserve id wanted).1.nameFor? m = some name at hm
    rw [nameFor?_reserve] at hm
    split at hm
    · exact absurd (Option.some.inj hm) hne
    · rw [get?, definitions_reserve]
      exact hc m name hm

end Styling.StyleCollector

end DesignCompiler
