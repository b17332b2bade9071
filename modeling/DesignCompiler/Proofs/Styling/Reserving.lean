import DesignCompiler.Proofs.Styling.Collector
import Mathlib.Order.Bounds.Basic

/-! The names that a style collector gives over any sequence of calls. No two elements have one
name, an element keeps its name until all is cleared, and a new name is the first that is neither
that of a definition nor that of an element. -/
namespace DesignCompiler.Styling.StyleCollector
open Json.Decoder Naming

/-- A call that changes a collector. -/
inductive Call where
  | reserve (id wanted : String)
  | insert (name source : String)
  | clear
  deriving DecidableEq

/-- The collector after a call. -/
def call (c : StyleCollector) : Call → StyleCollector
  | .reserve id wanted => (c.reserve id wanted).1
  | .insert name source => c.insert name source
  | .clear => empty

/-- The collector after some calls, the first of them first. -/
def afterCalls (c : StyleCollector) (calls : List Call) : StyleCollector := calls.foldl call c

/-- A name that a definition or an element has. -/
def IsTaken (c : StyleCollector) (name : String) : Prop :=
  (c.get? name).isSome = true ∨ ∃ id, c.nameFor? id = some name

section
variable {c : StyleCollector} {id id' name wanted : String}

/-! ## Names are unique -/

/-- No element is listed twice, and no name. -/
structure Distinct (c : StyleCollector) : Prop where
  ids : (c.assigned.map (·.1)).Nodup
  names : (c.assigned.map (·.2)).Nodup

lemma distinct_empty : Distinct empty := ⟨List.nodup_nil,List.nodup_nil⟩

lemma Distinct.reserve (hc : c.Distinct) (id wanted : String) : (c.reserve id wanted).1.Distinct := by
  cases hn : c.nameFor? id with
  | some name =>
    rw [reserve_of_named hn]
    exact hc
  | none =>
    have hid : id ∉ c.assigned.map (·.1) := lookup_eq_none_iff.mp hn
    have hname : fresh c.usedNames wanted ∉ c.assigned.map (·.2) := fun hmem =>
      fresh_not_mem c.usedNames wanted (List.mem_append_right _ hmem)
    rw [reserve_of_unnamed hn]
    exact ⟨nodup_map_concat.mpr ⟨hid,hc.ids⟩,nodup_map_concat.mpr ⟨hname,hc.names⟩⟩

lemma Distinct.call (hc : c.Distinct) (k : Call) : (c.call k).Distinct := by
  cases k with
  | reserve id wanted => exact hc.reserve id wanted
  | insert name source => exact ⟨hc.ids,hc.names⟩
  | clear => exact distinct_empty

lemma Distinct.afterCalls (hc : c.Distinct) (calls : List Call) : (c.afterCalls calls).Distinct := by
  induction calls generalizing c with
  | nil => exact hc
  | cons k calls ih => exact ih (hc.call k)

lemma Distinct.id_eq (hc : c.Distinct) (h : c.nameFor? id = some name)
    (h' : c.nameFor? id' = some name) : id = id' :=
  congrArg Prod.fst (List.inj_on_of_nodup_map hc.names (mem_of_lookup h) (mem_of_lookup h') rfl)

/-! ## Names are kept -/

/-- Only clearing takes a name from an element. -/
lemma nameFor?_call {k : Call} (h : c.nameFor? id = some name) (hk : k ≠ .clear) :
    (c.call k).nameFor? id = some name := by
  cases k with
  | reserve id' wanted =>
    rw [call, nameFor?_reserve]
    split
    · next he => rw [he, reserve_of_named h]
    · exact h
  | insert name' source => exact h
  | clear => contradiction

lemma nameFor?_afterCalls {calls : List Call} (h : c.nameFor? id = some name)
    (hcalls : Call.clear ∉ calls) : (c.afterCalls calls).nameFor? id = some name := by
  induction calls generalizing c with
  | nil => exact h
  | cons k calls ih =>
    rw [List.mem_cons, not_or] at hcalls
    exact ih (nameFor?_call h (Ne.symm hcalls.1)) hcalls.2

/-! ## New names -/

/-- The names in use are those that are taken. -/
lemma Distinct.mem_usedNames_iff (hc : c.Distinct) : name ∈ c.usedNames ↔ c.IsTaken name := by
  have hdefined : name ∈ c.definitions.map (·.1) ↔ (c.get? name).isSome = true := by
    rw [← not_iff_not, ← lookup_eq_none_iff, Bool.not_eq_true, Option.isSome_eq_false_iff,
      Option.isNone_iff_eq_none]
    rfl
  have hassigned : name ∈ c.assigned.map (·.2) ↔ ∃ id, c.nameFor? id = some name := by
    constructor
    · intro h
      obtain ⟨⟨id,_⟩,he,rfl⟩ := List.mem_map.mp h
      exact ⟨id,lookup_of_mem hc.ids he⟩
    · rintro ⟨id,h⟩
      exact List.mem_map_of_mem (f := (·.2)) (mem_of_lookup h)
  rw [usedNames, List.mem_append, hdefined, hassigned]
  rfl

/-- The name that a collector finds when one is wanted: this one if it is free, and else the same
with the least number from two on that makes it free. The search for it always ends. -/
structure Finds (c : StyleCollector) (wanted name : String) : Prop where
  of_free : ¬ c.IsTaken wanted → name = wanted
  of_taken : c.IsTaken wanted → ∃ n, IsLeast {n : ℕ | 2 ≤ n ∧ ¬ c.IsTaken (wanted ++ toString n)} n ∧
    name = wanted ++ toString n
  search_iff : ∀ found, Search c.IsTaken wanted wanted 2 found ↔ found = name

lemma Distinct.finds_fresh (hc : c.Distinct) (wanted : String) :
    c.Finds wanted (fresh c.usedNames wanted) := by
  have htaken : (· ∈ c.usedNames) = c.IsTaken := funext fun _ => propext hc.mem_usedNames_iff
  obtain ⟨hfree,hname⟩ := isLeastUnused_fresh c.usedNames wanted
  have hsearch := Naming.search_iff c.usedNames wanted
  rw [htaken] at hsearch
  generalize fresh c.usedNames wanted = name at hfree hname hsearch
  simp only [hc.mem_usedNames_iff] at hfree hname
  refine ⟨?_,?_,hsearch⟩
  · intro hw
    exact hname.resolve_right fun h => hw h.1
  · intro hw
    obtain rfl | ⟨-,n,hn,rfl,hbefore⟩ := hname
    · exact absurd hw hfree
    · refine ⟨n,⟨⟨hn,hfree⟩,fun m hm => ?_⟩,rfl⟩
      by_contra hlt
      exact hm.2 (hbefore m hm.1 (Nat.lt_of_not_le hlt))

/-- After any calls no two elements have one name. An element has the name that is reserved for it,
and whatever is wanted later it is given this name until all is cleared. An element without a name
is given the first that is free. -/
theorem names_unique_and_stable (calls : List Call) :
    let c := empty.afterCalls calls
    (∀ id id' name, c.nameFor? id = some name → c.nameFor? id' = some name → id = id') ∧
      ∀ id wanted, (c.reserve id wanted).1.nameFor? id = some (c.reserve id wanted).2 ∧
        (∀ later wanted', Call.clear ∉ later →
          (((c.reserve id wanted).1.afterCalls later).reserve id wanted').2 =
            (c.reserve id wanted).2) ∧
        (c.nameFor? id = none → c.Finds wanted (c.reserve id wanted).2) := by
  intro c
  have hc : c.Distinct := distinct_empty.afterCalls calls
  refine ⟨fun id id' name => hc.id_eq,fun id wanted => ?_⟩
  have hnamed : (c.reserve id wanted).1.nameFor? id = some (c.reserve id wanted).2 := by
    rw [nameFor?_reserve, if_pos rfl]
  refine ⟨hnamed,fun later wanted' hlater => ?_,fun hn => ?_⟩
  · rw [reserve_of_named (nameFor?_afterCalls hnamed hlater)]
  · rw [reserve_of_unnamed hn]
    exact hc.finds_fresh wanted

/-- A name that two definitions and an element have in some form is given with the number four, and
kept. -/
theorem names_unique_and_stable_card :
    let calls : List Call := [.insert "Card" "a",.reserve "1:1" "Card",.insert "Card3" "b"]
    let later : List Call := [.reserve "1:3" "Card",.insert "Card4" "c"]
    let c := empty.afterCalls calls
    c.nameFor? "1:2" = none ∧ Call.clear ∉ later ∧ c.Finds "Card" "Card4" ∧
      (((c.reserve "1:2" "Card").1.afterCalls later).reserve "1:2" "Panel").2 = "Card4" := by
  intro calls later c
  have hnone : c.nameFor? "1:2" = none := by decide +kernel
  have hlater : Call.clear ∉ later := by decide
  have hname : (c.reserve "1:2" "Card").2 = "Card4" := by decide +kernel
  obtain ⟨-,hkept,hfinds⟩ := (names_unique_and_stable calls).2 "1:2" "Card"
  exact ⟨hnone,hlater,hname ▸ hfinds hnone,(hkept later "Panel" hlater).trans hname⟩

end

end DesignCompiler.Styling.StyleCollector
