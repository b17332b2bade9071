import DesignCompiler.Element.Basic
import DesignCompiler.Proofs.Naming.ComponentName

/-! Identities of elements. In the identity that a node has in the source, colons and semicolons come
by turns, so that it can be read back although both have become underscores. -/
namespace DesignCompiler
open Naming

/-! ## Identities in the source -/

/-- Digits, and one at least. -/
def IsNumeral (cs : List Char) : Prop := cs ≠ [] ∧ ∀ c ∈ cs, c.isDigit = true

instance (cs : List Char) : Decidable (IsNumeral cs) := inferInstanceAs (Decidable (_ ∧ _))

/-- Two numbers with a colon between them. -/
def IsIdPair (cs : List Char) : Prop := ∃ a b, IsNumeral a ∧ IsNumeral b ∧ cs = a ++ ':' :: b

/-- What the source calls a node: a pair of numbers or, inside an instance, an `I` and two pairs or
more with semicolons between them. -/
inductive IsSourceId : String → Prop
  | plain {p : List Char} (hp : IsIdPair p) : IsSourceId (String.ofList p)
  | inInstance {ps : List (List Char)} (hlen : 2 ≤ ps.length) (hps : ∀ p ∈ ps, IsIdPair p) :
    IsSourceId (String.ofList ('I' :: [';'].intercalate ps))

/-! ## Characters of an identity -/

/-- A character as it stands in the identity of an element. -/
def idChar (c : Char) : Char := if c.isAlphanum then c else '_'

lemma toList_elementId (s : String) : (elementId s).toList = 'n' :: s.toList.map idChar :=
  String.toList_ofList

lemma isNameChar_idChar (c : Char) : IsNameChar (idChar c) := by
  unfold idChar
  split
  · next hc => exact .inl hc
  · exact .inr rfl

lemma map_idChar_of_isNumeral {ds : List Char} (h : IsNumeral ds) : ds.map idChar = ds := by
  refine (List.map_congr_left (g := id) fun c hc => ?_).trans (List.map_id ds)
  exact if_pos (by rw [Char.isAlphanum, h.2 c hc, Bool.or_true])

/-! ## Reading back -/

/-- Put two marks in the place of the underscores, by turns. -/
def restore (mark other : Char) : List Char → List Char
  | [] => []
  | c :: cs =>
    if c = '_' then mark :: restore other mark cs else c :: restore mark other cs

section
variable {mark other : Char}

lemma restore_append {w : List Char} (hw : '_' ∉ w) (cs : List Char) :
    restore mark other (w ++ cs) = w ++ restore mark other cs := by
  induction w with
  | nil => rfl
  | cons c w ih =>
    obtain ⟨hc,hw⟩ := List.ne_and_not_mem_of_not_mem_cons hw
    rw [List.cons_append, restore, if_neg (Ne.symm hc), ih hw, List.cons_append]

lemma restore_numeral {ds : List Char} (h : IsNumeral ds) (cs : List Char) :
    restore mark other (ds.map idChar ++ cs) = ds ++ restore mark other cs := by
  rw [map_idChar_of_isNumeral h]
  refine restore_append (fun hmem => ?_) cs
  exact absurd (h.2 _ hmem) (by decide)

end

/-- Within a pair it is the turn of the colon, and after the pair that of the other mark. -/
lemma restore_pair {p : List Char} (hp : IsIdPair p) (cs : List Char) :
    restore ':' ';' (p.map idChar ++ cs) = p ++ restore ';' ':' cs := by
  obtain ⟨a,b,ha,hb,rfl⟩ := hp
  have hcolon : idChar ':' = '_' := rfl
  rw [List.map_append, List.map_cons, hcolon, List.append_assoc, restore_numeral ha,
    List.cons_append, restore, if_pos rfl, restore_numeral hb, List.append_assoc, List.cons_append]

theorem restore_pairs {ps : List (List Char)} (hps : ∀ p ∈ ps, IsIdPair p) :
    restore ':' ';' (([';'].intercalate ps).map idChar) = [';'].intercalate ps := by
  induction ps with
  | nil => rfl
  | cons p ps ih =>
    obtain ⟨hp,hps⟩ := List.forall_mem_cons.mp hps
    cases ps with
    | nil =>
      rw [List.intercalate_singleton, ← List.append_nil (p.map idChar), restore_pair hp, restore,
        List.append_nil]
    | cons q ps =>
      have hsemicolon : idChar ';' = '_' := rfl
      rw [List.intercalate_cons_cons, List.append_assoc, List.map_append, List.singleton_append,
        List.map_cons, hsemicolon, restore_pair hp, restore, if_pos rfl, ih hps]

/-- What the source calls the node of an element. -/
def sourceIdOf (id : String) : String := String.ofList (restore ':' ';' id.toList.tail)

/-- The identity of an element tells which node it is made from. -/
theorem sourceIdOf_elementId {s : String} (hs : IsSourceId s) : sourceIdOf (elementId s) = s := by
  rw [sourceIdOf, toList_elementId, List.tail_cons]
  cases hs with
  | @plain p hp =>
    have hrestore := restore_pairs (List.forall_mem_singleton.mpr hp)
    rw [List.intercalate_singleton] at hrestore
    rw [String.toList_ofList, hrestore]
  | @inInstance ps hlen hps =>
    have hletter : idChar 'I' = 'I' := rfl
    rw [String.toList_ofList, List.map_cons, hletter, restore, if_neg (by decide),
      restore_pairs hps]

/-- The identity of an element is an `n`, then letters, digits and underscores, and no two nodes of the
source give the same one. -/
theorem elementId_identifies_source :
    (∀ s, ∃ cs, (elementId s).toList = 'n' :: cs ∧ ∀ c ∈ cs, IsNameChar c) ∧
      ∀ s t, IsSourceId s → IsSourceId t → (elementId s = elementId t ↔ s = t) := by
  refine ⟨fun s => ⟨_,toList_elementId s,?_⟩,fun s t hs ht => ⟨fun h => ?_,congrArg elementId⟩⟩
  · exact List.forall_mem_map.mpr fun c _ => isNameChar_idChar c
  · rw [← sourceIdOf_elementId hs, h, sourceIdOf_elementId ht]

/-- Two nodes inside instances whose digits are the same. -/
theorem elementId_identifies_source_instances :
    IsSourceId "I12:3;4:5" ∧ IsSourceId "I1:23;4:5" ∧
      elementId "I12:3;4:5" ≠ elementId "I1:23;4:5" := by
  have hlast : IsIdPair ['4',':','5'] := ⟨['4'],['5'],by decide,by decide,rfl⟩
  have hpairs : ∀ p ∈ [['1','2',':','3'],['4',':','5']], IsIdPair p := by
    simpa using ⟨⟨['1','2'],['3'],by decide,by decide,rfl⟩,hlast⟩
  have hothers : ∀ p ∈ [['1',':','2','3'],['4',':','5']], IsIdPair p := by
    simpa using ⟨⟨['1'],['2','3'],by decide,by decide,rfl⟩,hlast⟩
  have hs : IsSourceId "I12:3;4:5" := .inInstance (by decide) hpairs
  have ht : IsSourceId "I1:23;4:5" := .inInstance (by decide) hothers
  refine ⟨hs,ht,fun h => ?_⟩
  have heq := (elementId_identifies_source.2 _ _ hs ht).mp h
  exact absurd heq (by decide)

/-- Other texts may share an identity. -/
example : elementId "1:2" = elementId "1;2" := by decide

end DesignCompiler
