import DesignCompiler.FromDesign.Variants
import DesignCompiler.Proofs.Json.Table
import DesignCompiler.Proofs.Text.Ascii
import Mathlib.Data.List.Forall2

/-! Values by key and the props that variants make. Of the pairs for one key a table has the last
one. The values of all variants are collected by key, keys and values in the order in which they
first appear, and every key becomes one prop whose type follows from its values. -/
namespace DesignCompiler.FromDesign
open Text Json.Decoder

/-! ## Tables -/

section
variable {α : Type}

/-- The keys of some pairs, in the order in which they first appear. -/
def keysOf (pairs : List (String × α)) : List String := (pairs.map (·.1)).eraseDups

lemma nodup_keysOf (pairs : List (String × α)) : (keysOf pairs).Nodup := nodup_eraseDups _

lemma keysOf_concat (pairs : List (String × α)) (p : String × α) :
    keysOf (pairs ++ [p]) = if p.1 ∈ keysOf pairs then keysOf pairs else keysOf pairs ++ [p.1] := by
  rw [keysOf, List.map_append, List.map_singleton, eraseDups_concat]
  simp only [keysOf, List.mem_eraseDups]

lemma tableOf_concat (pairs : List (String × α)) (p : String × α) :
    tableOf (pairs ++ [p]) = putEntry p.1 p.2 (tableOf pairs) := by
  rw [tableOf, List.foldl_append]
  rfl

/-- A table has the keys of its pairs, each once and where it first appears. -/
lemma map_fst_tableOf (pairs : List (String × α)) : (tableOf pairs).map (·.1) = keysOf pairs := by
  induction pairs using List.reverseRecOn with
  | nil => rfl
  | append_singleton pairs p ih => rw [tableOf_concat, keys_putEntry, keysOf_concat, ih]

/-- What a table has for a key is the last of the pairs with that key. -/
lemma find?_tableOf (pairs : List (String × α)) (key : String) :
    (tableOf pairs).find? (·.1 == key) = pairs.reverse.find? (·.1 == key) := by
  induction pairs using List.reverseRecOn with
  | nil => rfl
  | append_singleton pairs p ih =>
    rw [tableOf_concat, find?_putEntry, ih, List.reverse_concat, List.find?_cons]
    by_cases h : p.1 = key
    · subst h
      simp
    · rw [if_neg h, beq_eq_false_iff_ne.mpr h]

lemma find?_of_mem_tableOf {pairs : List (String × α)} {e : String × α} (he : e ∈ tableOf pairs) :
    pairs.reverse.find? (·.1 == e.1) = some e := by
  have hn : ((tableOf pairs).map (·.1)).Nodup := map_fst_tableOf pairs ▸ nodup_keysOf pairs
  rw [← find?_tableOf, find?_of_mem hn he]

end

/-! ## Values by key -/

/-- The different values that some pairs have for a key, in the order in which they first appear. -/
def valuesOf (key : String) (pairs : List (String × String)) : List String :=
  ((pairs.filter (·.1 == key)).map (·.2)).eraseDups

section
variable {keys : List String} {key value : String} {pairs : List (String × String)}

lemma valuesOf_concat_self (pairs : List (String × String)) (p : String × String) :
    valuesOf p.1 (pairs ++ [p]) = if p.2 ∈ valuesOf p.1 pairs then valuesOf p.1 pairs
      else valuesOf p.1 pairs ++ [p.2] := by
  have hlast : [p].filter (·.1 == p.1) = [p] := by simp
  rw [valuesOf, List.filter_append, hlast, List.map_append, List.map_singleton, eraseDups_concat]
  simp only [valuesOf, List.mem_eraseDups]

lemma valuesOf_concat_of_ne {p : String × String} (h : key ≠ p.1) :
    valuesOf key (pairs ++ [p]) = valuesOf key pairs := by
  simp [valuesOf, h.symm]

lemma valuesOf_eq_nil_iff : valuesOf key pairs = [] ↔ key ∉ keysOf pairs := by
  rw [List.eq_nil_iff_forall_not_mem]
  simp [valuesOf, keysOf]

/-- A table that has `f k` for each of its keys `k` has `g k` after a value is added, where `g` is
`f` but for the key of that value. -/
lemma addValue_map {f g : String → List String} (hn : keys.Nodup) (hnew : key ∉ keys → f key = [])
    (hkey : g key = if value ∈ f key then f key else f key ++ [value])
    (hother : ∀ k ≠ key, g k = f k) :
    addValue key value (keys.map fun k => (k,f k)) =
      (if key ∈ keys then keys else keys ++ [key]).map fun k => (k,g k) := by
  induction keys with
  | nil => simp [addValue, hkey, hnew]
  | cons k keys ih =>
    obtain ⟨hk,hn⟩ := List.nodup_cons.mp hn
    rw [List.map_cons, addValue]
    by_cases he : k = key
    · subst he
      have hrest : keys.map (fun m => (m,g m)) = keys.map fun m => (m,f m) :=
        List.map_congr_left fun m hm => by rw [hother m (ne_of_mem_of_not_mem hm hk)]
      simp [hkey, hrest]
    · have hmem : key ∈ k :: keys ↔ key ∈ keys := by simp [Ne.symm he]
      rw [if_neg (mt beq_iff_eq.mp he), ih hn fun h => hnew (mt hmem.mp h)]
      simp only [hmem]
      split <;> simp [hother k he]

end

/-- Every key has its values once, keys and values in the order in which they first appear. -/
theorem collectValues_eq (cases : List VariantCase) :
    collectValues cases =
      (keysOf cases.flatten).map fun key => (key,valuesOf key cases.flatten) := by
  unfold collectValues
  generalize cases.flatten = pairs
  induction pairs using List.reverseRecOn with
  | nil => rfl
  | append_singleton pairs p ih =>
    rw [List.foldl_append, List.foldl_cons, List.foldl_nil, ih, keysOf_concat]
    exact addValue_map (nodup_keysOf pairs) valuesOf_eq_nil_iff.mpr (valuesOf_concat_self pairs p)
      fun k hk => valuesOf_concat_of_ne hk

lemma map_fst_collectValues (cases : List VariantCase) :
    (collectValues cases).map (·.1) = keysOf cases.flatten := by
  rw [collectValues_eq, List.map_map]
  exact List.map_id _

/-! ## The prop of a key -/

/-- Values that say true or false, in letters of any case, and of which both occur. -/
structure SayBoth (values : List String) : Prop where
  truths : ∀ v ∈ values, asciiLower v = "true" ∨ asciiLower v = "false"
  isTrue : ∃ v ∈ values, asciiLower v = "true"
  isFalse : ∃ v ∈ values, asciiLower v = "false"

lemma areTruthValues_iff {values : List String} : areTruthValues values = true ↔ SayBoth values := by
  have htrue : asciiLower "true" = "true" := by decide
  have hfalse : asciiLower "false" = "false" := by decide
  simp only [areTruthValues, sameIgnoringAsciiCase, htrue, hfalse, Bool.and_eq_true, List.all_eq_true,
    List.any_eq_true, Bool.or_eq_true, beq_iff_eq, eq_comm (a := "true"), eq_comm (a := "false")]
  constructor
  · rintro ⟨⟨h,ht⟩,hf⟩
    exact ⟨h,ht,hf⟩
  · rintro ⟨h,ht,hf⟩
    exact ⟨⟨h,ht⟩,hf⟩

/-- A text that is a word of ASCII letters up to their case has that word as its lowercase. -/
lemma lower_of_asciiLower {v w : String} (h : asciiLower v = w) (hw : ∀ c ∈ w.toList, c.toNat < 128) :
    lower v = w := by
  have hascii : ∀ c ∈ v.toList, c.toNat < 128 := by
    intro c hc
    by_contra hlarge
    have hmem : c.toLower ∈ w.toList := by
      rw [← h, asciiLower, String.toList_ofList]
      exact List.mem_map_of_mem hc
    rw [toLower_of_le (Nat.le_of_not_lt hlarge)] at hmem
    exact hlarge (hw c hmem)
  rw [lower_eq_asciiLower fun c hc hle => absurd (hascii c hc) (Nat.not_lt.mpr hle), h]

lemma SayBoth.lower_eq {values : List String} (h : SayBoth values) {v : String} (hv : v ∈ values) :
    lower v = asciiLower v := by
  obtain hv | hv := h.truths v hv
  · rw [hv, lower_of_asciiLower hv (by decide)]
  · rw [hv, lower_of_asciiLower hv (by decide)]

/-- A prop says what values its key has: a boolean stands for values that say true and false, a
string for a single value and an enum for several, which it lists. The first value is the default, in
lowercase if it is a truth value. -/
structure Summarizes (values : List String) (p : PropDef) : Prop where
  boolean_iff : p.type = .boolean ↔ SayBoth values
  string_iff : p.type = .string ↔ ¬ SayBoth values ∧ values.length = 1
  enum_iff : p.type = .enum ↔ ¬ SayBoth values ∧ values.length ≠ 1
  values_eq : p.values = if p.type = .enum then values else []
  default_eq : ∃ first, values.head? = some first ∧
    p.default = some (if p.type = .boolean then lower first else first)

lemma exists_inferProp (key : String) {values : List String} (h : values ≠ []) :
    ∃ p, inferProp key values = some p ∧ p.name = key ∧ Summarizes values p := by
  obtain ⟨first,rest,rfl⟩ := List.exists_cons_of_ne_nil h
  unfold inferProp
  by_cases hboth : SayBoth (first :: rest)
  · refine ⟨_,if_pos (areTruthValues_iff.mpr hboth),rfl,?_⟩
    have hlower := hboth.lower_eq List.mem_cons_self
    constructor <;> simp [PropDef.boolean, hboth, hlower]
  · rw [if_neg (mt areTruthValues_iff.mp hboth)]
    by_cases hone : (first :: rest).length = 1
    · refine ⟨_,if_pos (beq_iff_eq.mpr hone),rfl,?_⟩
      constructor <;> simp [PropDef.string, hboth, hone]
    · have hrest : rest ≠ [] := by
        rintro rfl
        exact hone rfl
      refine ⟨_,(if_neg (mt beq_iff_eq.mp hone)).trans (if_neg (by simp)),rfl,?_⟩
      constructor <;> simp [hboth, hrest]

/-- The default of an enum is among its values. -/
lemma Summarizes.default_mem {values : List String} {p : PropDef} (h : Summarizes values p)
    (hp : p.type = .enum) : ∃ v ∈ p.values, p.default = some v := by
  obtain ⟨first,hfirst,hdefault⟩ := h.default_eq
  refine ⟨first,?_,by simp [hdefault, hp]⟩
  rw [h.values_eq, if_pos hp]
  exact List.mem_of_head? hfirst

/-! ## The props of all keys -/

lemma forall₂_filterMap {α β : Type} {f : α → Option β} {R : α → β → Prop} {as : List α}
    (h : ∀ a ∈ as, ∃ b, f a = some b ∧ R a b) : List.Forall₂ R as (as.filterMap f) := by
  induction as with
  | nil => exact .nil
  | cons a as ih =>
    obtain ⟨⟨b,hb,hab⟩,has⟩ := List.forall_mem_cons.mp h
    rw [List.filterMap_cons_some hb]
    exact .cons hab (ih has)

/-- Each key becomes a prop. -/
lemma forall₂_propsOfCases (cases : List VariantCase) :
    List.Forall₂ (fun key p => p.name = key ∧ Summarizes (valuesOf key cases.flatten) p)
      (keysOf cases.flatten) (propsOfCases cases) := by
  rw [propsOfCases, collectValues_eq, List.filterMap_map]
  refine forall₂_filterMap fun key hkey => exists_inferProp key ?_
  rw [ne_eq, valuesOf_eq_nil_iff, not_not]
  exact hkey

/-- The props that variants make, one for every key in the order in which the keys first appear, each
with the type and the default that the values of its key ask for. An enum lists these values, each
once and in the order in which they first appear, and its default is one of them. -/
theorem props_summarize_values (cases : List VariantCase) :
    (keysOf cases.flatten).Nodup ∧
      List.Forall₂ (fun key p => p.name = key ∧ (valuesOf key cases.flatten).Nodup ∧
        Summarizes (valuesOf key cases.flatten) p ∧
        (p.type = .enum → ∃ v ∈ p.values, p.default = some v))
      (keysOf cases.flatten) (propsOfCases cases) :=
  ⟨nodup_keysOf _,(forall₂_propsOfCases cases).imp fun _ _ ⟨hname,hvalues⟩ =>
    ⟨hname,nodup_eraseDups _,hvalues,hvalues.default_mem⟩⟩

/-- Spellings of one truth value are different values of one boolean. -/
example : propsOfCases [[("On","True"),("Size","S")],[("Size","L"),("On","true")],[("On","FALSE")]] =
    [.boolean "On" (some "true"),⟨"Size",.enum,["S","L"],some "S"⟩] := by decide

end DesignCompiler.FromDesign
