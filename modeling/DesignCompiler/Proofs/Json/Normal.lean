import DesignCompiler.Json.Draft
import Mathlib.Data.String.Basic

/-! JSON values in normal form: the entries of every object stand in the order of their keys, each
key once. To read a value in full is to bring it into normal form. -/
namespace DesignCompiler.Json

namespace Value

/-- A property that passes to a value from all that it holds is one of all values. -/
@[elab_as_elim]
theorem induction {P : Value → Prop} (null : P .null) (bool : ∀ b, P (.bool b))
    (number : ∀ n, P (.number n)) (string : ∀ s, P (.string s))
    (array : ∀ items, (∀ v ∈ items, P v) → P (.array items))
    (object : ∀ entries : List (String × Value), (∀ e ∈ entries, P e.2) → P (.object entries))
    (v : Value) : P v :=
  @Value.rec P (fun vs => ∀ v ∈ vs, P v) (fun es => ∀ e ∈ es, P e.2) (fun e => P e.2) null bool
    number string array object (fun _ h => nomatch h)
    (fun _ _ h hs => List.forall_mem_cons.mpr ⟨h,hs⟩) (fun _ h => nomatch h)
    (fun _ _ h hs => List.forall_mem_cons.mpr ⟨h,hs⟩) (fun _ _ h => h) v

mutual

/-- The value with the entries of its objects sorted; of those with one key the last remains. -/
def normal : Value → Value
  | .array items => .array (normalItems items)
  | .object entries => .object (Draft.sortEntries (normalEntries entries))
  | .null => .null
  | .bool b => .bool b
  | .number n => .number n
  | .string s => .string s

def normalItems : List Value → List Value
  | [] => []
  | v :: vs => v.normal :: normalItems vs

def normalEntries : List (String × Value) → List (String × Value)
  | [] => []
  | (k,v) :: rest => (k,v.normal) :: normalEntries rest

end

mutual

/-- How many lists and objects lie in each other. -/
def nesting : Value → ℕ
  | .array items => nestingItems items + 1
  | .object entries => nestingEntries entries + 1
  | .null | .bool _ | .number _ | .string _ => 0

def nestingItems : List Value → ℕ
  | [] => 0
  | v :: vs => max v.nesting (nestingItems vs)

def nestingEntries : List (String × Value) → ℕ
  | [] => 0
  | (_,v) :: rest => max v.nesting (nestingEntries rest)

end

lemma normalItems_eq_map (vs : List Value) : normalItems vs = vs.map normal := by
  induction vs with
  | nil => rfl
  | cons v vs ih => rw [normalItems, ih, List.map_cons]

lemma normalEntries_eq_map (es : List (String × Value)) :
    normalEntries es = es.map fun e => (e.1,e.2.normal) := by
  induction es with
  | nil => rfl
  | cons e es ih => rw [normalEntries, ih, List.map_cons]

@[simp] lemma normal_array (vs : List Value) : (array vs).normal = .array (vs.map normal) := by
  rw [normal, normalItems_eq_map]

@[simp] lemma normal_object (es : List (String × Value)) :
    (object es).normal = .object (Draft.sortEntries (es.map fun e => (e.1,e.2.normal))) := by
  rw [normal, normalEntries_eq_map]

lemma nestingItems_lt {vs : List Value} {d : ℕ} (hd : 0 < d) :
    nestingItems vs < d ↔ ∀ v ∈ vs, v.nesting < d := by
  induction vs with
  | nil => simpa [nestingItems] using hd
  | cons v vs ih => rw [nestingItems, max_lt_iff, ih, List.forall_mem_cons]

lemma nestingEntries_lt {es : List (String × Value)} {d : ℕ} (hd : 0 < d) :
    nestingEntries es < d ↔ ∀ e ∈ es, e.2.nesting < d := by
  induction es with
  | nil => simpa [nestingEntries] using hd
  | cons e es ih => rw [nestingEntries, max_lt_iff, ih, List.forall_mem_cons]

lemma nesting_array_lt {vs : List Value} {d : ℕ} :
    (array vs).nesting < d ↔ 1 < d ∧ ∀ v ∈ vs, v.nesting < d-1 := by
  rw [nesting]
  constructor
  · intro h
    have hd : 0 < d-1 := by omega
    exact ⟨by omega,(nestingItems_lt hd).mp (by omega)⟩
  · rintro ⟨hd,h⟩
    have hn := (nestingItems_lt (by omega)).mpr h
    omega

lemma nesting_object_lt {es : List (String × Value)} {d : ℕ} :
    (object es).nesting < d ↔ 1 < d ∧ ∀ e ∈ es, e.2.nesting < d-1 := by
  rw [nesting]
  constructor
  · intro h
    have hd : 0 < d-1 := by omega
    exact ⟨by omega,(nestingEntries_lt hd).mp (by omega)⟩
  · rintro ⟨hd,h⟩
    have hn := (nestingEntries_lt (by omega)).mpr h
    omega

end Value

namespace Draft
open Value

lemma ofValues_eq_map (vs : List Value) : ofValues vs = vs.map ofValue := by
  induction vs with
  | nil => rfl
  | cons v vs ih => rw [ofValues, ih, List.map_cons]

lemma ofEntries_eq_map (es : List (String × Value)) :
    ofEntries es = es.map fun e => (some e.1,ofValue e.2) := by
  induction es with
  | nil => rfl
  | cons e es ih => rw [ofEntries, ih, List.map_cons]

@[simp] lemma ofValue_array (vs : List Value) :
    ofValue (.array vs) = .array (vs.map ofValue) true := by
  rw [ofValue, ofValues_eq_map]

@[simp] lemma ofValue_object (es : List (String × Value)) :
    ofValue (.object es) = .object (es.map fun e => (some e.1,ofValue e.2)) true := by
  rw [ofValue, ofEntries_eq_map]

/-! ## Sorted entries -/

section
variable {α : Type} {k : String} {v : α} {es : List (String × α)}

/-- The entries stand in the order of their keys, each key once. -/
def Sorted (es : List (String × α)) : Prop := es.Pairwise fun a b => a.1 < b.1

lemma mem_of_mem_insertEntry {e : String × α} (he : e ∈ insertEntry k v es) :
    e = (k,v) ∨ e ∈ es := by
  induction es with
  | nil => exact .inl (List.mem_singleton.mp he)
  | cons e' es ih =>
    rw [insertEntry] at he
    split at he
    · exact (List.mem_cons.mp he).imp_right (List.mem_cons_of_mem _)
    split at he
    · exact List.mem_cons.mp he
    · obtain rfl | he := List.mem_cons.mp he
      · exact .inr List.mem_cons_self
      · exact (ih he).imp_right (List.mem_cons_of_mem _)

lemma sorted_insertEntry (h : Sorted es) : Sorted (insertEntry k v es) := by
  induction es with
  | nil => exact List.pairwise_singleton _ _
  | cons e es ih =>
    obtain ⟨hlt,hes⟩ := List.pairwise_cons.mp h
    rw [insertEntry]
    split
    · next hk =>
      exact List.pairwise_cons.mpr ⟨fun e' he' => eq_of_beq hk ▸ hlt e' he',hes⟩
    split
    · next hk =>
      exact List.pairwise_cons.mpr ⟨List.forall_mem_cons.mpr
        ⟨hk,fun e' he' => lt_trans hk (hlt e' he')⟩,h⟩
    · next hne hnlt =>
      refine List.pairwise_cons.mpr ⟨?_,ih hes⟩
      intro e' he'
      obtain rfl | he' := mem_of_mem_insertEntry he'
      · exact (lt_or_gt_of_ne (ne_of_beq_false (eq_false_of_ne_true hne))).resolve_left hnlt
      · exact hlt e' he'

/-- What goes after all entries is put at the end. -/
lemma insertEntry_of_lt (h : ∀ e ∈ es, e.1 < k) : insertEntry k v es = es ++ [(k,v)] := by
  induction es with
  | nil => rfl
  | cons e es ih =>
    obtain ⟨he,hes⟩ := List.forall_mem_cons.mp h
    rw [insertEntry, if_neg (by simpa using ne_of_gt he), if_neg (lt_asymm he), ih hes]
    rfl

lemma mem_of_mem_sortEntries {e : String × α} (he : e ∈ sortEntries es) : e ∈ es := by
  refine List.foldlRecOn (motive := fun sorted => ∀ e ∈ sorted, e ∈ es) es _
    (List.forall_mem_nil _) ?_ e he
  intro sorted h e he e' he'
  obtain rfl | he' := mem_of_mem_insertEntry he'
  · exact he
  · exact h e' he'

lemma sorted_sortEntries (es : List (String × α)) : Sorted (sortEntries es) :=
  List.foldlRecOn es _ List.Pairwise.nil fun _ h _ _ => sorted_insertEntry h

/-- What is sorted stays as it is. -/
lemma sortEntries_of_sorted (h : Sorted es) : sortEntries es = es := by
  have hrun : ∀ (es sorted : List (String × α)), Sorted (sorted ++ es) →
      es.foldl (fun sorted e => insertEntry e.1 e.2 sorted) sorted = sorted ++ es := by
    intro es
    induction es with
    | nil => exact fun sorted _ => (List.append_nil sorted).symm
    | cons e es ih =>
      intro sorted h
      have hlt : ∀ e' ∈ sorted, e'.1 < e.1 := fun e' he' =>
        (List.pairwise_append.mp h).2.2 e' he' e List.mem_cons_self
      rw [List.foldl_cons, insertEntry_of_lt hlt, ih _ (by simpa using h), List.append_assoc]
      rfl
  exact hrun es [] h

/-- Entries of which one has a key and any value, while the others do not depend on the value. -/
def Splits (k : String) (f : α → List (String × α)) : Prop :=
  ∃ before after : List (String × α), ∀ v, f v = before ++ (k,v) :: after

lemma Splits.self (es : List (String × α)) : Splits k fun v => (k,v) :: es := ⟨[],es,fun _ => rfl⟩

lemma Splits.cons {f : α → List (String × α)} (h : Splits k f) (e : String × α) :
    Splits k fun v => e :: f v := by
  obtain ⟨before,after,hf⟩ := h
  exact ⟨e :: before,after,fun v => congrArg _ (hf v)⟩

lemma splits_insertEntry (k : String) (es : List (String × α)) :
    Splits k fun v => insertEntry k v es := by
  induction es with
  | nil => exact .self []
  | cons e es ih =>
    by_cases hk : k = e.1
    · simp only [insertEntry, beq_iff_eq, if_pos hk]
      exact .self es
    by_cases hlt : k < e.1
    · simp only [insertEntry, beq_iff_eq, if_neg hk, if_pos hlt]
      exact .self (e :: es)
    · simp only [insertEntry, beq_iff_eq, if_neg hk, if_neg hlt]
      exact ih.cons e

lemma Splits.insertEntry {f : α → List (String × α)} {k' : String} (h : Splits k f)
    (hk : k' ≠ k) (v' : α) : Splits k fun v => insertEntry k' v' (f v) := by
  obtain ⟨before,after,hf⟩ := h
  simp only [hf]
  clear hf
  induction before with
  | nil =>
    by_cases hlt : k' < k
    · simp only [List.nil_append, Draft.insertEntry, beq_iff_eq, if_neg hk, if_pos hlt]
      exact .cons (.self after) _
    · simp only [List.nil_append, Draft.insertEntry, beq_iff_eq, if_neg hk, if_neg hlt]
      exact .self _
  | cons e before ih =>
    have hsplits : Splits k fun v => before ++ (k,v) :: after := ⟨before,after,fun _ => rfl⟩
    by_cases hke : k' = e.1
    · simp only [List.cons_append, Draft.insertEntry, beq_iff_eq, if_pos hke]
      exact .cons hsplits _
    by_cases hlt : k' < e.1
    · simp only [List.cons_append, Draft.insertEntry, beq_iff_eq, if_neg hke, if_pos hlt]
      exact .cons (.cons hsplits e) _
    · simp only [List.cons_append, Draft.insertEntry, beq_iff_eq, if_neg hke, if_neg hlt]
      exact ih.cons e

/-- Where a key stands among sorted entries does not depend on its value. -/
theorem splits_sortEntries (before : List (String × α)) {after : List (String × α)}
    (h : ∀ e ∈ after, e.1 ≠ k) : Splits k fun v => sortEntries (before ++ (k,v) :: after) := by
  have hrun : ∀ (es : List (String × α)) (f : α → List (String × α)), Splits k f →
      (∀ e ∈ es, e.1 ≠ k) →
      Splits k fun v => es.foldl (fun sorted e => Draft.insertEntry e.1 e.2 sorted) (f v) := by
    intro es
    induction es with
    | nil => exact fun _ hf _ => hf
    | cons e es ih =>
      intro f hf h
      obtain ⟨he,hes⟩ := List.forall_mem_cons.mp h
      exact ih _ (hf.insertEntry he e.2) hes
  have h := hrun after _ (splits_insertEntry k (sortEntries before)) h
  simpa only [sortEntries, List.foldl_append, List.foldl_cons] using h

/-- No other entry has the same key. -/
lemma Sorted.ne_of_mem {before after : List (String × α)}
    (h : Sorted (before ++ (k,v) :: after)) : ∀ e ∈ before ++ after, e.1 ≠ k := by
  obtain ⟨-,hafter,hlt⟩ := List.pairwise_append.mp h
  intro e he
  obtain he | he := List.mem_append.mp he
  · exact ne_of_lt (hlt e he (k,v) List.mem_cons_self)
  · exact ne_of_gt ((List.pairwise_cons.mp hafter).1 e he)

end

/-! ## Values that are read in full -/

lemma values?_map_ofValue {vs : List Value} {d : ℕ}
    (h : ∀ v ∈ vs, (ofValue v).value? d = some v.normal) :
    values? d (vs.map ofValue) = some (vs.map normal) := by
  induction vs with
  | nil => rfl
  | cons v vs ih =>
    obtain ⟨hv,hvs⟩ := List.forall_mem_cons.mp h
    rw [List.map_cons, values?, hv, ih hvs, List.map_cons]

lemma entries?_map_ofValue {es : List (String × Value)} {d : ℕ}
    (h : ∀ e ∈ es, (ofValue e.2).value? d = some e.2.normal) :
    entries? d (es.map fun e => (some e.1,ofValue e.2)) =
      some (es.map fun e => (e.1,e.2.normal)) := by
  induction es with
  | nil => rfl
  | cons e es ih =>
    obtain ⟨he,hes⟩ := List.forall_mem_cons.mp h
    simp only [List.map_cons, entries?, he, ih hes]

/-- A value that is nested less deep than is allowed is read, and brought into normal form. -/
theorem value?_ofValue {v : Value} {d : ℕ} (h : v.nesting < d) :
    (ofValue v).value? d = some v.normal := by
  induction v using Value.induction generalizing d with
  | null | bool | number | string => rfl
  | array items ih =>
    obtain ⟨hd,h⟩ := nesting_array_lt.mp h
    rw [ofValue_array, value?, if_pos hd, values?_map_ofValue fun v hv => ih v hv (h v hv),
      normal_array]
    rfl
  | object entries ih =>
    obtain ⟨hd,h⟩ := nesting_object_lt.mp h
    rw [ofValue_object, value?, if_pos hd, entries?_map_ofValue fun e he => ih e he (h e he),
      normal_object]
    rfl

/-! ## Drafts that spell a value out -/

mutual

/-- Whether a draft spells a value out, as far as that can be told: numbers are not compared. -/
def spells (d : Draft) : Value → Bool
  | .null => match d with
    | .null => true
    | _ => false
  | .bool b => match d with
    | .bool c => c == b
    | _ => false
  | .number _ => false
  | .string s => match d with
    | .string (some t) => t == s
    | _ => false
  | .array vs => match d with
    | .array ds true => spellsItems ds vs
    | _ => false
  | .object es => match d with
    | .object fs true => spellsEntries fs es
    | _ => false
termination_by structural v => v

def spellsItems (ds : List Draft) : List Value → Bool
  | [] => ds.isEmpty
  | v :: vs => match ds with
    | d :: ds => d.spells v && spellsItems ds vs
    | [] => false
termination_by structural vs => vs

def spellsEntries (fs : List (Option String × Draft)) : List (String × Value) → Bool
  | [] => fs.isEmpty
  | (k,v) :: es => match fs with
    | (some l,d) :: fs => l == k && d.spells v && spellsEntries fs es
    | _ => false
termination_by structural es => es

end

lemma eq_map_of_spellsItems {vs : List Value}
    (ih : ∀ v ∈ vs, ∀ d, spells d v = true → d = ofValue v) {ds : List Draft}
    (h : spellsItems ds vs = true) : ds = vs.map ofValue := by
  induction vs generalizing ds with
  | nil => exact List.isEmpty_iff.mp h
  | cons v vs ihvs =>
    obtain ⟨hv,hvs⟩ := List.forall_mem_cons.mp ih
    cases ds with
    | nil => contradiction
    | cons d ds =>
      obtain ⟨hd,hds⟩ := Bool.and_eq_true_iff.mp h
      rw [hv d hd, ihvs hvs hds, List.map_cons]

lemma eq_map_of_spellsEntries {es : List (String × Value)}
    (ih : ∀ e ∈ es, ∀ d, spells d e.2 = true → d = ofValue e.2)
    {fs : List (Option String × Draft)} (h : spellsEntries fs es = true) :
    fs = es.map fun e => (some e.1,ofValue e.2) := by
  induction es generalizing fs with
  | nil => exact List.isEmpty_iff.mp h
  | cons e es ihes =>
    obtain ⟨he,hes⟩ := List.forall_mem_cons.mp ih
    obtain _ | ⟨⟨_ | l,d⟩,fs⟩ := fs
    · contradiction
    · contradiction
    · obtain ⟨hld,hfs⟩ := Bool.and_eq_true_iff.mp h
      obtain ⟨hl,hd⟩ := Bool.and_eq_true_iff.mp hld
      rw [beq_iff_eq.mp hl, he d hd, ihes hes hfs, List.map_cons]

theorem eq_ofValue_of_spells {d : Draft} {v : Value} (h : d.spells v = true) : d = ofValue v := by
  induction v using Value.induction generalizing d with
  | null => cases d <;> first | contradiction | rfl
  | bool b =>
    cases d <;> try contradiction
    rw [beq_iff_eq.mp h, ofValue]
  | number n => contradiction
  | string s =>
    obtain _ | _ | _ | (_ | t) | _ | _ | _ := d <;> try contradiction
    rw [beq_iff_eq.mp h, ofValue]
  | array vs ih =>
    obtain _ | _ | _ | _ | ⟨ds,_ | _⟩ | _ | _ := d <;> try contradiction
    rw [ofValue_array, eq_map_of_spellsItems (fun v hv d => ih v hv) h]
  | object es ih =>
    obtain _ | _ | _ | _ | _ | ⟨fs,_ | _⟩ | _ := d <;> try contradiction
    rw [ofValue_object, eq_map_of_spellsEntries (fun e he d => ih e he) h]

end Draft

/-- The normal form is nested no deeper. -/
lemma Value.nesting_normal_lt {v : Value} {d : ℕ} (h : v.nesting < d) : v.normal.nesting < d := by
  induction v using Value.induction generalizing d with
  | null | bool | number | string => exact h
  | array items ih =>
    obtain ⟨hd,h⟩ := nesting_array_lt.mp h
    rw [normal_array]
    exact nesting_array_lt.mpr ⟨hd,List.forall_mem_map.mpr fun v hv => ih v hv (h v hv)⟩
  | object entries ih =>
    obtain ⟨hd,h⟩ := nesting_object_lt.mp h
    rw [normal_object]
    refine nesting_object_lt.mpr ⟨hd,fun e he => ?_⟩
    obtain ⟨e',he',rfl⟩ := List.mem_map.mp (Draft.mem_of_mem_sortEntries he)
    exact ih e' he' (h e' he')

/-- A value in normal form stays as it is. -/
theorem Value.normal_normal (v : Value) : v.normal.normal = v.normal := by
  induction v using Value.induction with
  | null | bool | number | string => rfl
  | array items ih =>
    rw [normal_array, normal_array, List.map_map]
    exact congrArg array (List.map_congr_left ih)
  | object entries ih =>
    have hfix : ∀ e ∈ Draft.sortEntries (entries.map fun e => (e.1,e.2.normal)),
        (e.1,e.2.normal) = e := by
      intro e he
      obtain ⟨e',he',rfl⟩ := List.mem_map.mp (Draft.mem_of_mem_sortEntries he)
      rw [ih e' he']
    rw [normal_object, normal_object, List.map_congr_left hfix, List.map_id'',
      Draft.sortEntries_of_sorted (Draft.sorted_sortEntries _)]
    exact fun _ => rfl

lemma Value.normal_of_mem_array {vs : List Value} (h : (array vs).normal = array vs) :
    ∀ v ∈ vs, v.normal = v := by
  rw [normal_array, Value.array.injEq] at h
  intro v hv
  rw [← h] at hv
  obtain ⟨v',-,rfl⟩ := List.mem_map.mp hv
  exact v'.normal_normal

lemma Value.normal_of_mem_object {es : List (String × Value)}
    (h : (object es).normal = object es) : ∀ e ∈ es, e.2.normal = e.2 := by
  rw [normal_object, Value.object.injEq] at h
  intro e he
  rw [← h] at he
  obtain ⟨e',-,rfl⟩ := List.mem_map.mp (Draft.mem_of_mem_sortEntries he)
  exact e'.2.normal_normal

end DesignCompiler.Json
