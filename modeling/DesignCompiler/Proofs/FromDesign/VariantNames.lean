import DesignCompiler.Proofs.FromDesign.Variants
import DesignCompiler.Proofs.Text.Lines
import DesignCompiler.Proofs.Text.Trim

/-! Names that spell the values of a variant as `Key=Value, Key2=Value2`. Such a name is read back as
the table of the pairs that it spells. -/
namespace DesignCompiler.FromDesign
open Text Json.Decoder

/-- A key and a value that a name can spell. The value may be empty, and it may hold equals signs. -/
structure IsSpellable (p : String × String) : Prop where
  key_ne : p.1 ≠ ""
  trim_key : trim p.1 = p.1
  comma_notMem_key : ',' ∉ p.1.toList
  equals_notMem_key : '=' ∉ p.1.toList
  trim_value : trim p.2 = p.2
  comma_notMem_value : ',' ∉ p.2.toList
  oneLine_value : OneLine p.2

/-- The name that spells some pairs. -/
def spelledName (pairs : List (String × String)) : String :=
  ", ".intercalate (pairs.map fun p => p.1 ++ "=" ++ p.2)

/-- A table has the keys of some pairs, each once and where it first occurs among them, with the
values that they have last. -/
structure IsTableOf (pairs table : List (String × String)) : Prop where
  keys_eq : table.map (·.1) = keysOf pairs
  nodup_keys : (table.map (·.1)).Nodup
  last : ∀ e ∈ table, pairs.reverse.find? (·.1 == e.1) = some e

lemma isTableOf_tableOf (pairs : List (String × String)) : IsTableOf pairs (tableOf pairs) :=
  ⟨map_fst_tableOf pairs,map_fst_tableOf pairs ▸ nodup_keysOf pairs,fun _ => find?_of_mem_tableOf⟩

section
variable {p : String × String} {pairs : List (String × String)} {b : List Char}

lemma trimChars_toList {s : String} (h : trim s = s) : trimChars s.toList = s.toList := by
  rw [← toList_trim, h]

lemma variantKey?_key (h : IsSpellable p) (hb : allBlank b = true) :
    variantKey? (b ++ p.1.toList) = some p.1.toList := by
  have hkey : p.1.toList ≠ [] := by simpa using h.key_ne
  rw [variantKey?, trimChars_append_left hb, trimChars_toList h.trim_key]
  split
  · contradiction
  · rfl

/-- A part that spells a pair is read as that pair, with blanks ahead of it or without. -/
lemma variantPair?_part (h : IsSpellable p) (hb : allBlank b = true) (hequals : '=' ∉ b) :
    variantPair? (b ++ p.1.toList ++ '=' :: p.2.toList) = some p := by
  have hkey : '=' ∉ b ++ p.1.toList := by
    rw [List.mem_append, not_or]
    exact ⟨hequals,h.equals_notMem_key⟩
  have hvalue : ¬ p.2.toList.contains '\n' = true :=
    fun hmem => h.oneLine_value (List.contains_iff_mem.mp hmem)
  simp only [variantPair?, cutAt_append hkey, variantKey?_key h hb, trimChars_toList h.trim_value,
    if_neg hvalue, String.ofList_toList]

lemma comma_notMem_part (h : IsSpellable p) (hcomma : ',' ∉ b) :
    ',' ∉ b ++ p.1.toList ++ '=' :: p.2.toList := by
  simp [hcomma, h.comma_notMem_key, h.comma_notMem_value]

lemma toList_spelledName_singleton (p : String × String) :
    (spelledName [p]).toList = p.1.toList ++ '=' :: p.2.toList := by
  simp [spelledName]

lemma toList_spelledName_cons (p q : String × String) (pairs : List (String × String)) :
    (spelledName (p :: q :: pairs)).toList =
      p.1.toList ++ '=' :: p.2.toList ++ ',' :: ([' '] ++ (spelledName (q :: pairs)).toList) := by
  rw [spelledName, List.map_cons, String.intercalate_cons_of_ne_nil (by simp), ← spelledName]
  simp

/-- The parts of a name that spells some pairs are read as these pairs. -/
lemma filterMap_parts (h : ∀ q ∈ p :: pairs, IsSpellable q) (hb : allBlank b = true)
    (hcomma : ',' ∉ b) (hequals : '=' ∉ b) :
    ((b ++ (spelledName (p :: pairs)).toList).splitOn ',').filterMap variantPair? = p :: pairs := by
  -- every part but the first has a blank ahead of it, so the blanks ahead vary in the induction
  induction pairs generalizing p b with
  | nil =>
    have hp := h p List.mem_cons_self
    rw [toList_spelledName_singleton, ← List.append_assoc,
      List.splitOn_eq_singleton (comma_notMem_part hp hcomma),
      List.filterMap_cons_some (variantPair?_part hp hb hequals), List.filterMap_nil]
  | cons q pairs ih =>
    obtain ⟨hp,hpairs⟩ := List.forall_mem_cons.mp h
    rw [toList_spelledName_cons, ← List.append_assoc, ← List.append_assoc,
      List.splitOn_append_cons_self_of_not_mem (comma_notMem_part hp hcomma),
      List.filterMap_cons_some (variantPair?_part hp hb hequals),
      ih hpairs (by decide) (by decide) (by decide)]

end

/-- A name that spells some pairs is read as the table of these pairs. -/
theorem parseVariantName_spelledName {pairs : List (String × String)}
    (h : ∀ p ∈ pairs, IsSpellable p) : IsTableOf pairs (parseVariantName (spelledName pairs)) := by
  have hparts : ((spelledName pairs).toList.splitOn ',').filterMap variantPair? = pairs := by
    cases pairs with
    | nil => decide
    | cons p pairs => exact filterMap_parts (b := []) h rfl List.not_mem_nil List.not_mem_nil
  rw [parseVariantName, hparts]
  exact isTableOf_tableOf pairs

/-- A key that is spelled twice, a value with an equals sign and one that is empty. -/
theorem parseVariantName_state :
    let pairs := [("State","Hover"),("Icon Left",""),("State","a=b")]
    (∀ p ∈ pairs, IsSpellable p) ∧ spelledName pairs = "State=Hover, Icon Left=, State=a=b" ∧
      IsTableOf pairs (parseVariantName (spelledName pairs)) ∧
      parseVariantName (spelledName pairs) = [("State","a=b"),("Icon Left","")] := by
  intro pairs
  have hpairs : ∀ p ∈ pairs, IsSpellable p := by
    intro p hp
    simp only [pairs, List.mem_cons, List.not_mem_nil, or_false] at hp
    rcases hp with rfl | rfl | rfl <;> constructor <;> decide
  exact ⟨hpairs,by decide,parseVariantName_spelledName hpairs,by decide⟩

end DesignCompiler.FromDesign
