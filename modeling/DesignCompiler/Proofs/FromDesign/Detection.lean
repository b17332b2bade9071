import DesignCompiler.Markup.Build
import DesignCompiler.Proofs.FromDesign.Marking
import DesignCompiler.Proofs.FromDesign.Reports

/-! The repetitions that are detected. In the tree of a component every element is marked with the
repetition among its children, and with no other. -/
namespace DesignCompiler.FromDesign
open Document Element Markup

/-! ## Among children -/

/-- A repetition among so many children: the members are enough of them, in order, and the first is
the template. -/
structure IsRepetition (count : ℕ) (r : Repeat) : Prop where
  template : r.members.head? = some r.template
  increasing : r.members.Pairwise (· < ·)
  bound : ∀ i ∈ r.members, i < count
  enough : minRepeat ≤ r.members.length

/-- What is detected among children is a repetition. -/
theorem isRepetition_of_detectRepetition {es : List Element} {r : Repeat}
    (hr : detectRepetition es = some r) : IsRepetition es.length r := by
  obtain ⟨⟨hrepeats,-⟩,hmembers⟩ := of_detectRepetition hr
  have henough := hmembers.three_le_length hrepeats
  obtain ⟨-,-,-,-,⟨hlt,-⟩,-⟩ := hrepeats
  obtain ⟨later,hmembers,hsorted,hlater⟩ := hmembers
  have hafter : ∀ j ∈ later, r.template < j ∧ Alike es r.template j := fun j => (hlater j).mp
  refine ⟨by rw [hmembers, List.head?_cons],?_,?_,henough⟩
  · rw [hmembers]
    exact .cons (fun j hj => (hafter j hj).1) hsorted
  · rw [hmembers, List.forall_mem_cons]
    refine ⟨hlt,fun j hj => ?_⟩
    obtain ⟨-,-,hj,-⟩ := hafter j hj
    exact hj

/-! ## In the tree of a component -/

/-- A head that is not marked as repeating. -/
def Unmarked (h : ElementHead) : Prop := h.remarks.isRepeating = false

lemma repetition?_of_unmarked {h : ElementHead} (hh : Unmarked h) : repetition? h = none := by
  rw [repetition?, hh]
  rfl

/-- Marking gives an unmarked head the repetition among its children. -/
lemma repetition?_markRepeat {h : ElementHead} (hh : Unmarked h) (es : List Element) :
    repetition? (markRepeat h es) = detectRepetition es := by
  unfold markRepeat
  cases detectRepetition es with
  | none => exact repetition?_of_unmarked hh
  | some r => rfl

/-- After marking, every element of an unmarked tree has the repetition among its children. -/
theorem repetition?_markRepetitions {e : Element} (he : ∀ h ∈ e.walk, Unmarked h) :
    ∀ f ∈ (markRepetitions e).subtrees, repetition? f.head = detectRepetition f.children := by
  rw [subtrees_markRepetitions, List.forall_mem_map]
  rintro ⟨h,es⟩ hf
  rw [markRepetitions_mk]
  refine repetition?_markRepeat (he h ?_) _
  rw [← map_head_subtrees]
  exact List.mem_map_of_mem hf

section
variable {s : Surroundings}

lemma unmarked_startHead (c : Classification) (a : Attributes) :
    Unmarked (startHead s c a).1 := by
  unfold startHead
  generalize styleOf a = style
  cases interactionHint a.name <;> rfl

lemma unmarked_withComponent {h : ElementHead} (hh : Unmarked h) (a : Attributes) :
    Unmarked (withComponent s a h).1 := by
  unfold withComponent
  cases a.componentId with
  | none => exact hh
  | some id =>
    dsimp only
    cases s.registry.get? id <;> exact hh

lemma unmarked_withShownChildren {h : ElementHead} (hh : Unmarked h) (a : Attributes)
    (shown : List Child) : Unmarked (withShownChildren a shown h).1 := by
  unfold withShownChildren
  dsimp only
  split_ifs <;> exact hh

lemma unmarked_assemble (c : Classification) (a : Attributes) (children : List Child)
    (built : Reported (List Element)) : Unmarked (assemble s c a children built).1.head := by
  have hs := unmarked_startHead (s := s) c a
  unfold assemble
  generalize startHead s c a = start at hs ⊢
  cases c.kind
  case text | image | icon | divider => exact hs
  case componentInstance => exact unmarked_withComponent hs a
  case container | component =>
    cases children.filter isShown with
    | nil => exact hs
    | cons d ds => exact unmarked_withShownChildren hs a _

lemma unmarked_buildChild (parent : Attributes) (tag : String) (i : ℕ) (c : Child) :
    Unmarked (buildChild s parent tag i c).1.head := by
  cases c with
  | invalid bad =>
    rw [buildChild_invalid]
    rfl
  | node a cs =>
    rw [buildChild_node, IgnoresPosition.place (v := Unmarked) (fun _ _ => rfl)]
    exact unmarked_assemble _ a cs _

/-- A root of its own on the elements below a node leaves the tree unmarked. -/
lemma unmarked_of_mem_walk {c : Classification} {n : Node} {root : ElementHead}
    (hr : Unmarked root) :
    ∀ h ∈ (Element.mk root (buildAs s c n).1.children).walk, Unmarked h := by
  intro h hh
  obtain rfl | ⟨parent,tag,i,d,-,rfl⟩ := head_eq_of_mem_walk hh
  · exact hr
  · exact unmarked_buildChild parent tag i d

end

lemma Unmarked.asRoot {h : ElementHead} (hh : Unmarked h) : Unmarked (asRoot h) := hh

lemma Unmarked.asSet {h : ElementHead} (hh : Unmarked h) (set : Node) : Unmarked (asSet set h) :=
  hh

lemma Unmarked.addHint {h : ElementHead} (hh : Unmarked h) (nodeId hint : String) :
    Unmarked (addHint nodeId hint h).1 := hh

lemma Unmarked.withProps {h : ElementHead} (hh : Unmarked h) (props : List PropDef) :
    Unmarked { h with props := props } := hh

/-- The tree of a component is an unmarked tree in which the repetitions are marked. -/
lemma exists_unmarked (registry : ComponentRegistry)
    (styles : Option (List (String × StyleMeta))) (n : Node) :
    ∃ e, (build registry styles n).1 = markRepetitions e ∧ ∀ h ∈ e.walk, Unmarked h := by
  have hshown (c : Classification) (m : Node) :
      Unmarked (buildAs (surroundingsOf registry styles n) c m).1.head := unmarked_assemble c _ _ _
  by_cases hk : n.attrs.kind = .componentSet
  · rw [build_of_set registry styles n hk]
    refine ⟨_,rfl,?_⟩
    rw [mapHead_eq]
    have hset := (hshown (named .component n.attrs.name) (defaultVariant n)).asSet n
    obtain hbuilt | ⟨-,hint,hbuilt⟩ := buildSet_cases (surroundingsOf registry styles n) n
    · rw [hbuilt]
      exact unmarked_of_mem_walk hset.asRoot
    · rw [hbuilt]
      exact unmarked_of_mem_walk (hset.addHint _ hint).asRoot
  · rw [build_of_ne_set registry styles n hk]
    refine ⟨_,rfl,?_⟩
    rw [mapHead_eq, mapHead_eq]
    exact unmarked_of_mem_walk ((hshown _ n).withProps _).asRoot

/-- In the tree of a component every element is marked with the repetition among its children. -/
theorem repetition?_build (registry : ComponentRegistry)
    (styles : Option (List (String × StyleMeta))) (n : Node) :
    ∀ e ∈ (build registry styles n).1.subtrees,
      repetition? e.head = detectRepetition e.children := by
  obtain ⟨e,he,hunmarked⟩ := exists_unmarked registry styles n
  rw [he]
  exact repetition?_markRepetitions hunmarked

end DesignCompiler.FromDesign
