import DesignCompiler.Json.Decoder
import Mathlib.Data.List.Induction
import Mathlib.Data.List.Nodup
import Mathlib.Tactic.Lemma

/-! Tables as lists of entries: what is found under a key after a value is set, and in a table in
which each key stands once. Keys stand in the order of their first occurrences. -/
namespace DesignCompiler.Json.Decoder
variable {α : Type}

lemma find?_putEntry (k m : String) (v : α) (es : List (String × α)) :
    (putEntry k v es).find? (·.1 == m) =
      if k = m then some (k,v) else es.find? (·.1 == m) := by
  induction es with
  | nil => by_cases h : k = m <;> simp [putEntry, h]
  | cons e es ih =>
    rw [putEntry]
    by_cases hk : k = e.1
    · rw [if_pos (beq_iff_eq.mpr hk)]
      by_cases h : k = m <;> simp [h, ← hk]
    · rw [if_neg (mt beq_iff_eq.mp hk), List.find?_cons, List.find?_cons, ih]
      by_cases h : k = m
      · have he : (e.1 == m) = false := by simp [← h, Ne.symm hk]
        simp [h, he]
      · simp [h]

lemma putEntry_of_not_mem {k : String} {es : List (String × α)} (h : k ∉ es.map (·.1)) (v : α) :
    putEntry k v es = es ++ [(k,v)] := by
  induction es with
  | nil => rfl
  | cons e es ih =>
    rw [List.map_cons, List.mem_cons, not_or] at h
    rw [putEntry, if_neg (mt beq_iff_eq.mp h.1), ih h.2]
    rfl

lemma keys_putEntry (k : String) (v : α) (es : List (String × α)) :
    (putEntry k v es).map (·.1) =
      if k ∈ es.map (·.1) then es.map (·.1) else es.map (·.1) ++ [k] := by
  induction es with
  | nil => rfl
  | cons e es ih =>
    rw [putEntry]
    by_cases hk : k = e.1
    · simp [hk]
    · rw [if_neg (mt beq_iff_eq.mp hk), List.map_cons, List.map_cons, ih]
      split
      · next h => rw [if_pos (List.mem_cons_of_mem _ h)]
      · next h => rw [if_neg (List.not_mem_cons_of_ne_of_not_mem hk h), List.cons_append]

/-- In a table in which each key stands once, an entry is the only one of its key. -/
lemma filter_of_mem {k : String} {v : α} {es : List (String × α)} (hn : (es.map (·.1)).Nodup)
    (he : (k,v) ∈ es) : es.filter (·.1 == k) = [(k,v)] := by
  induction es with
  | nil => nomatch he
  | cons e es ih =>
    rw [List.map_cons, List.nodup_cons] at hn
    rw [List.filter_cons]
    obtain rfl | he := List.mem_cons.mp he
    · have hnone : es.filter (·.1 == k) = [] := by
        rw [List.filter_eq_nil_iff]
        intro e he hk
        exact hn.1 (List.mem_map.mpr ⟨e,he,eq_of_beq hk⟩)
      rw [if_pos (beq_self_eq_true k), hnone]
    · have hne : ¬ (e.1 == k) = true := by
        intro hk
        rw [eq_of_beq hk] at hn
        exact hn.1 (List.mem_map_of_mem (f := (·.1)) he)
      rw [if_neg hne, ih hn.2 he]

lemma find?_of_mem {k : String} {v : α} {es : List (String × α)} (hn : (es.map (·.1)).Nodup)
    (he : (k,v) ∈ es) : es.find? (·.1 == k) = some (k,v) := by
  rw [← List.head?_filter, filter_of_mem hn he]
  rfl

/-- A table in which each key stands once has every entry that it lists. -/
lemma lookup_of_mem {k : String} {v : α} {es : List (String × α)} (hn : (es.map (·.1)).Nodup)
    (he : (k,v) ∈ es) : (es.find? (·.1 == k)).map (·.2) = some v := by
  rw [find?_of_mem hn he]
  rfl

/-- What is found under a key is an entry of the table. -/
lemma mem_of_lookup {k : String} {v : α} {es : List (String × α)}
    (h : (es.find? (·.1 == k)).map (·.2) = some v) : (k,v) ∈ es := by
  obtain ⟨e,he,rfl⟩ := Option.map_eq_some_iff.mp h
  have hk : e.1 = k := by simpa using List.find?_some he
  exact hk ▸ List.mem_of_find?_eq_some he

lemma lookup_eq_none_iff {k : String} {es : List (String × α)} :
    (es.find? (·.1 == k)).map (·.2) = none ↔ k ∉ es.map (·.1) := by
  rw [Option.map_eq_none_iff, List.find?_eq_none, List.mem_map]
  constructor
  · rintro h ⟨e,he,rfl⟩
    exact h e he BEq.rfl
  · intro h e he hk
    exact h ⟨e,he,beq_iff_eq.mp hk⟩

/-- A table to whose end an entry is added still has each key once if the entry's key is new; so
with anything else that tells entries apart. -/
lemma nodup_map_concat {β : Type} {f : α → β} {es : List α} {e : α} :
    ((es ++ [e]).map f).Nodup ↔ f e ∉ es.map f ∧ (es.map f).Nodup := by
  rw [List.map_append, List.map_singleton, ← List.concat_eq_append, List.nodup_concat]

/-! ## First occurrences -/

section
variable {β : Type} [BEq β] [LawfulBEq β]

/-- The last member of a list counts as a first occurrence if it is new. -/
lemma eraseDups_concat (bs : List β) (b : β) :
    (bs ++ [b]).eraseDups = if b ∈ bs then bs.eraseDups else bs.eraseDups ++ [b] := by
  rw [List.eraseDups_append]
  split
  · next h => simp [List.removeAll, h]
  · next h => simp [List.removeAll, List.eraseDups_cons, h]

lemma nodup_eraseDups (bs : List β) : bs.eraseDups.Nodup := by
  induction bs using List.reverseRecOn with
  | nil => exact List.nodup_nil
  | append_singleton bs b ih =>
    rw [eraseDups_concat]
    split
    · exact ih
    · next h =>
      rw [← List.concat_eq_append]
      exact .concat (mt List.mem_eraseDups.mp h) ih

end

end DesignCompiler.Json.Decoder
