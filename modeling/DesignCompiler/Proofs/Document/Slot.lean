import DesignCompiler.Document.Reading
import DesignCompiler.Proofs.Json.Agreement
import DesignCompiler.Proofs.Json.Normal

/-! What a slot for a child holds: the node that its value is when it is read on its own, or what is
known of a value that is no node. -/
namespace DesignCompiler.Json

/-- How deep a value at a place may be nested, plus one. -/
def Place.room : Place → ℕ
  | .text depth => depth
  | .known => UInt64.size

/-- What lies in an object has the room that is left inside. -/
lemma Place.exists_enter {p : Place} (hp : 1 < p.room) :
    ∃ q, p.enter = .ok q ∧ p.room-1 ≤ q.room := by
  cases p with
  | text depth =>
    have hdepth : 1 < depth := hp
    refine ⟨.text (depth-1),?_,Nat.le_refl _⟩
    rw [Place.enter, if_pos hdepth]
  | known => exact ⟨.known,rfl,Nat.sub_le _ _⟩

namespace Decoder

lemma any_ofValue {v : Value} {p : Place} (h : v.nesting < p.room) :
    any p (Draft.ofValue v) = .ok v.normal := by
  have hv := Draft.value?_ofValue h
  unfold any
  cases p with
  | text depth | known => exact hv ▸ rfl

lemma items_any_ofValue {vs : List Value} {p : Place} (h : ∀ v ∈ vs, v.nesting < p.room) :
    items any p (vs.map Draft.ofValue) = .ok (vs.map Value.normal) := by
  induction vs with
  | nil => rfl
  | cons v vs ih =>
    obtain ⟨hv,hvs⟩ := List.forall_mem_cons.mp h
    rw [List.map_cons, items, any_ofValue hv, ih hvs]
    rfl

/-- A list of any values is read whenever it is not nested too deep. -/
lemma list_any_ofValue {vs : List Value} {p : Place} (h : (Value.array vs).nesting < p.room) :
    list any p (Draft.ofValue (.array vs)) = .ok (vs.map Value.normal) := by
  obtain ⟨hp,hvs⟩ := Value.nesting_array_lt.mp h
  obtain ⟨q,hq,hroom⟩ := Place.exists_enter hp
  rw [Draft.ofValue_array, list, hq]
  dsimp only
  rw [items_any_ofValue fun v hv => lt_of_lt_of_le (hvs v hv) hroom]
  rfl

/-- Only a list is read as a list of values. -/
lemma of_list_any_eq_ok {w : Value} {vs : List Value}
    (h : list any .known (Draft.ofValue w) = .ok vs) : ∃ ws, w = .array ws := by
  cases w with
  | array ws => exact ⟨ws,rfl⟩
  | object es =>
    rw [Draft.ofValue_object] at h
    contradiction
  | null | bool | number | string => contradiction

end Decoder

end DesignCompiler.Json

namespace DesignCompiler.Document
open Json Json.Decoder Read

/-- The fields of a node: its attributes, and its children as they stand in the text. -/
def nodeFields : Fields (Attributes × List Value) :=
  Prod.mk <$> attributes <*> Fields.withDefault childrenField [] (list any)

lemma parts_eq : parts = record "SourceNode" nodeFields := rfl

lemma names_nodeFields : nodeFields.names = attributes.names ++ [childrenField] := rfl

lemma childrenField_notMem_names : childrenField ∉ attributes.names := by decide

/-- The attributes are read without a look at the children. -/
lemma blind_attributes : Fields.Blind childrenField attributes := by
  unfold attributes
  repeat' first
    | apply Fields.Blind.map
    | apply Fields.Blind.seq
    | exact Fields.blind_required (by decide)
    | exact Fields.blind_withDefault (by decide)

/-! ## The children among the fields -/

lemma children_eq_map (vs : List Value) : Read.children vs = vs.map child := by
  induction vs with
  | nil => rfl
  | cons v vs ih => rw [Read.children, ih, List.map_cons]

lemma childrenOfEntries_eq (es : List (String × Value)) :
    childrenOfEntries es =
      (((es.find? (·.1 == childrenField)).map (·.2)).map childrenOf).getD [] := by
  induction es with
  | nil => rfl
  | cons e es ih =>
    rw [childrenOfEntries, List.find?_cons]
    split
    · next h => rw [h]; rfl
    · next h => rw [eq_false_of_ne_true h, ih]

lemma childrenAt_eq (i : ℕ) (vs : List Value) :
    childrenAt i vs = (vs[i]?.map childrenOf).getD [] := by
  induction vs generalizing i with
  | nil => cases i <;> rfl
  | cons v vs ih =>
    cases i with
    | zero => rfl
    | succ i => rw [childrenAt, ih, List.getElem?_cons_succ]

lemma snd_find?_knownEntries {names : List String} {k : String} (hk : k ∈ names)
    (es : List (String × Value)) (i : ℕ) :
    ((knownEntries names i (es.map fun e => (some e.1,Draft.ofValue e.2))).find?
      (·.2.1 == k)).map (·.2.2) = ((es.find? (·.1 == k)).map (·.2)).map Draft.ofValue := by
  induction es generalizing i with
  | nil => rfl
  | cons e es ih =>
    rw [List.map_cons, knownEntries, List.find?_cons]
    by_cases he : e.1 = k
    · have hmem : names.contains k = true := List.contains_iff_mem.mpr hk
      simp only [he, hmem, if_true, List.find?_cons, BEq.rfl, Option.map_some]
    · have hbeq : (e.1 == k) = false := beq_eq_false_iff_ne.mpr he
      simp only [hbeq]
      split
      · simp only [List.find?_cons, hbeq]
        exact ih _
      · exact ih _

lemma snd_find?_positional {ns : List String} {k : String} (hk : k ∉ ns) (vs : List Value)
    (i : ℕ) :
    ((positional i (ns ++ [k]) (vs.map Draft.ofValue)).find? (·.2.1 == k)).map (·.2.2) =
      vs[ns.length]?.map Draft.ofValue := by
  induction ns generalizing vs i with
  | nil =>
    cases vs with
    | nil => rfl
    | cons v vs => simp [positional]
  | cons n ns ih =>
    obtain ⟨hn,hns⟩ := not_or.mp (mt List.mem_cons.mpr hk)
    have hbeq : (n == k) = false := beq_eq_false_iff_ne.mpr (Ne.symm hn)
    cases vs with
    | nil => rfl
    | cons v vs =>
      rw [List.map_cons, List.cons_append, positional, List.find?_cons]
      simp only [hbeq, List.length_cons, List.getElem?_cons_succ]
      exact ih hns vs (i+1)

/-- The value of the field that holds the children, if there is one. -/
def childrenValue? : Value → Option Value
  | .object es => (es.find? (·.1 == childrenField)).map (·.2)
  | .array vs => vs[attributes.names.length]?
  | _ => none

/-- A slot is made from its value and the slots for its children. -/
lemma child_eq (v : Value) : child v = slot v (((childrenValue? v).map childrenOf).getD []) := by
  cases v with
  | object es => rw [child, childrenOfEntries_eq]; rfl
  | array vs => rw [child, childrenAt_eq]; rfl
  | null | bool | number | string => rfl

/-- A slot holds what its value is on its own: the node, or what is known of one that cannot be
read. -/
structure Holds (v : Value) (c : Child) : Prop where
  node : ∀ n, c.node? = some n ↔ decodeValue Read.node v = .ok n
  invalid : c.node? = none → ∃ reason, c = .invalid
    ⟨(v.get? "id").bind Value.string?,(v.get? "name").bind Value.string?,reason⟩

lemma snd_find?_present (p : Place) (entries : List (ℕ × String × Draft)) (last : ℕ)
    (absent : String → Fault) (absentOption : String → Option Fault) :
    ((Present.mk p (entries ++ [(last,"",.null)]) absent absentOption).find? childrenField).map
      (·.2) = (entries.find? (·.2.1 == childrenField)).map (·.2.2) := by
  have hlast : [(last,"",Draft.null)].find? (·.2.1 == childrenField) = none := rfl
  rw [Present.find?, List.find?_append, hlast, Option.or_none, Option.map_map]
  rfl

lemma of_both_eq_ok {α β : Type} {f : Except (ℕ × Fault) (α → β)} {x : Except (ℕ × Fault) α}
    {b : β} (h : Fields.both f x = .ok b) : ∃ g a, f = .ok g ∧ x = .ok a ∧ g a = b := by
  cases f <;> cases x <;> cases h
  exact ⟨_,_,rfl,rfl,rfl⟩

lemma of_firstFault_eq_ok {α : Type} {faults : List (ℕ × Fault)} {r : Except (ℕ × Fault) α} {a : α}
    (h : firstFault faults r = .ok a) : r = .ok a := by
  cases faults <;> cases r <;> cases h
  rfl

/-- When the fields of a node can be read, so can its children. -/
lemma children_of_read {e : Present} {w : Option Value} (hplace : e.place = .known)
    (hfind : (e.find? childrenField).map (·.2) = w.map Draft.ofValue)
    (hw : ∀ v ∈ w, v.normal = v ∧ v.nesting < UInt64.size) {a : Attributes} {vs : List Value}
    (h : nodeFields.read e = .ok (a,vs)) :
    Read.children vs = (w.map childrenOf).getD [] := by
  obtain ⟨g,vs',hg,hvs,heq⟩ := of_both_eq_ok h
  obtain ⟨g',a',hg',-,rfl⟩ := of_both_eq_ok hg
  cases hg'
  cases heq
  rw [Fields.withDefault] at hvs
  cases w with
  | none =>
    rw [Option.map_none, Option.map_eq_none_iff] at hfind
    rw [Fields.read_field_of_none hfind] at hvs
    cases hvs
    rfl
  | some v =>
    obtain ⟨⟨pos,d⟩,hpos,rfl⟩ := Option.map_eq_some_iff.mp hfind
    obtain ⟨hv,hroom⟩ := hw v rfl
    rw [Fields.read_field_of_some hpos, hplace] at hvs
    cases hl : list any .known (Draft.ofValue v) with
    | error f =>
      rw [hl] at hvs
      cases hvs
    | ok us =>
      obtain ⟨ws,rfl⟩ := of_list_any_eq_ok hl
      rw [list_any_ofValue hroom] at hvs
      rw [Value.normal_array, Value.array.injEq] at hv
      cases hvs
      rw [hv]
      rfl

/-- A node whose value is in normal form has the children that its value lists. -/
lemma children_of_parts {v : Value} (hv : v.normal = v) (hroom : v.nesting < UInt64.size)
    {a : Attributes} {vs : List Value} (h : parts .known (Draft.ofValue v) = .ok (a,vs)) :
    Read.children vs = ((childrenValue? v).map childrenOf).getD [] := by
  cases v with
  | null | bool | number | string => cases h
  | object es =>
    rw [Draft.ofValue_object, parts_eq, record, recordAs] at h
    refine children_of_read (w := (es.find? (·.1 == childrenField)).map (·.2)) rfl ?_ ?_
      (of_firstFault_eq_ok h)
    · rw [snd_find?_present, snd_find?_knownEntries (names_nodeFields ▸ by simp)]
    · intro w hw
      obtain ⟨e,he,rfl⟩ := Option.map_eq_some_iff.mp hw
      have hmem := List.mem_of_find?_eq_some he
      have hlt := (Value.nesting_object_lt.mp hroom).2 e hmem
      exact ⟨Value.normal_of_mem_object hv e hmem,by omega⟩
  | array ws =>
    rw [Draft.ofValue_array, parts_eq, record, recordAs] at h
    refine children_of_read (w := ws[attributes.names.length]?) rfl ?_ ?_ (of_firstFault_eq_ok h)
    · rw [snd_find?_present, names_nodeFields, snd_find?_positional childrenField_notMem_names]
    · intro w hw
      have hmem := List.mem_of_getElem? hw
      have hlt := (Value.nesting_array_lt.mp hroom).2 w hmem
      exact ⟨Value.normal_of_mem_array hv w hmem,by omega⟩

/-- Every value in normal form is held by its slot. -/
theorem holds_child {v : Value} (hv : v.normal = v) (hroom : v.nesting < UInt64.size) :
    Holds v (child v) := by
  have hnode : Read.node .known (Draft.ofValue v) = (parts .known (Draft.ofValue v)).map
      fun read => ⟨read.1,Read.children read.2⟩ := rfl
  rw [child_eq, slot]
  unfold decodeValue
  cases hp : parts .known (Draft.ofValue v) with
  | error f =>
    rw [hp] at hnode
    cases f with
    | malformed =>
      refine ⟨fun n => ?_,fun _ => ⟨_,rfl⟩⟩
      rw [decodeValue, hnode]
      simp [Child.node?, Except.map]
    | misfit m =>
      refine ⟨fun n => ?_,fun _ => ⟨_,rfl⟩⟩
      rw [decodeValue, hnode]
      simp [Child.node?, Except.map]
  | ok av =>
    obtain ⟨a,vs⟩ := av
    rw [hp] at hnode
    refine ⟨fun n => ?_,fun hn => nomatch hn⟩
    rw [decodeValue, hnode, ← children_of_parts hv hroom hp]
    simp [Child.node?, Except.map]

end DesignCompiler.Document
