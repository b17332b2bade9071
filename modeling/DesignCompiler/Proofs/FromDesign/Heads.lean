import DesignCompiler.Proofs.FromDesign.Assembly
import DesignCompiler.Proofs.FromDesign.Repetition

/-! The heads in the tree of a component. What does not ask for positions and repetitions holds of
all of them if it holds of the root and of the element of every slot, as it is assembled. -/
namespace DesignCompiler.FromDesign
open Document Element

/-- A view of heads that does not show positions. -/
def IgnoresPosition {α : Type} (v : ElementHead → α) : Prop :=
  ∀ (h : ElementHead) (p : Position),
    v { h with layout := { h.layout with position := p } } = v h

lemma IgnoresPosition.place {α : Type} {v : ElementHead → α} (hv : IgnoresPosition v)
    (parent a : Attributes) (e : Element) : v (place parent a e).head = v e.head := by
  unfold FromDesign.place
  split
  · rw [head_mapHead]
    exact hv _ _
  · rfl

/-- The variant that a component set is shown by is one of its slots, or the set itself. -/
lemma toChild_defaultVariant_mem (set : Node) :
    (defaultVariant set).toChild ∈ set.toChild.subtrees := by
  unfold defaultVariant
  cases hn : set.nodes.head? with
  | none => exact Child.mem_subtrees_self _
  | some v =>
    obtain ⟨c,hc,hv⟩ := List.mem_filterMap.mp (List.mem_of_mem_head? hn)
    have hslot : c = v.toChild := by
      cases c with
      | node a cs =>
        cases hv
        rfl
      | invalid bad => contradiction
    rw [Option.getD_some, ← hslot, Node.toChild, Child.subtrees_node]
    exact List.mem_cons_of_mem _ (List.mem_flatMap.mpr ⟨c,hc,Child.mem_subtrees_self c⟩)

/-- The node that a component shows is one of its slots. -/
lemma toChild_shownNode_mem (n : Node) : (shownNode n).toChild ∈ n.toChild.subtrees := by
  unfold shownNode
  split
  · exact toChild_defaultVariant_mem n
  · exact Child.mem_subtrees_self _

/-- The slots below the node that a component shows are slots of the component. -/
lemma subtrees_shownNode (n : Node) :
    (shownNode n).children.flatMap Child.subtrees ⊆ n.toChild.subtrees := by
  refine List.Subset.trans ?_ (Child.subtrees_subset (toChild_shownNode_mem n))
  rw [Node.toChild, Child.subtrees_node]
  exact List.subset_cons_self _ _

section
variable (registry : ComponentRegistry) (styles : Option (List (String × StyleMeta))) (n : Node)

/-- The root of a tree is what it takes from the component and from the node that is shown. -/
lemma rootOf_build : RootOf n
    (buildAs (surroundingsOf registry styles n) (rootClass n) (shownNode n)).1.head
    (build registry styles n).1.head := by
  obtain ⟨root,hr,he⟩ := build_eq registry styles n
  have hignores : IgnoresRepetition (RootOf n
      (buildAs (surroundingsOf registry styles n) (rootClass n) (shownNode n)).1.head) := by
    refine fun h repeating repetition => propext ⟨fun hh => ?_,fun hh => ?_⟩
    · exact ⟨hh.sourceId,hh.props,hh.layout,hh.origin,hh.binding⟩
    · exact ⟨hh.sourceId,hh.props,hh.layout,hh.origin,hh.binding⟩
  rwa [he, hignores.markRepetitions]

lemma props_build : (build registry styles n).1.head.props = rootProps n :=
  (rootOf_build registry styles n).props

/-- A property of heads holds in the whole tree of a component if it holds of its root and of the
elements of all slots. -/
theorem forall_mem_walk_build {P : ElementHead → Prop} (hp : IgnoresRepetition P)
    (hroot : P (build registry styles n).1.head)
    (hslot : ∀ parent tag i, ∀ c ∈ n.toChild.subtrees,
      P (buildChild (surroundingsOf registry styles n) parent tag i c).1.head) :
    ∀ h ∈ (build registry styles n).1.walk, P h := by
  obtain ⟨root,-,he⟩ := build_eq registry styles n
  -- the property is the same before repetitions are marked, when the tree is still made of slots
  rw [he, hp.markRepetitions] at hroot
  rw [← List.forall_mem_map (f := P) (P := fun p => p), he, hp.map_walk_markRepetitions,
    List.forall_mem_map]
  intro h hh
  obtain rfl | ⟨parent,tag,i,c,hc,rfl⟩ := head_eq_of_mem_walk hh
  · exact hroot
  · exact hslot parent tag i c (subtrees_shownNode n hc)

end

/-- A view of heads that shows nothing of what the root takes from its component. -/
def IgnoresRoot {α : Type} (v : ElementHead → α) : Prop :=
  ∀ (h : ElementHead) (id sourceId name : String) (props : List PropDef) (remarks : Remarks),
    v { h with id := id, sourceId := sourceId, name := name, props := props, remarks := remarks } =
      v h

lemma IgnoresRoot.ignoresRepetition {α : Type} {v : ElementHead → α} (hv : IgnoresRoot v) :
    IgnoresRepetition v := fun h _ _ => hv h h.id h.sourceId h.name h.props _

/-- What such a view shows of the root of a component is what it shows of the node. -/
lemma IgnoresRoot.build {α : Type} {v : ElementHead → α} (hv : IgnoresRoot v)
    (registry : ComponentRegistry) (styles : Option (List (String × StyleMeta))) (n : Node) :
    v (build registry styles n).1.head =
      v (buildAs (surroundingsOf registry styles n) (rootClass n) (shownNode n)).1.head := by
  unfold FromDesign.build
  dsimp only
  rw [hv.ignoresRepetition.markRepetitions, head_mapHead, hv _ _ _ _ _ _]
  by_cases hk : n.attrs.kind = .componentSet
  · have hc : rootClass n = named .component n.attrs.name := if_pos hk
    have hn : shownNode n = defaultVariant n := if_pos hk
    rw [if_pos (beq_iff_eq.mpr hk), hc, hn]
    unfold buildSet addHint
    dsimp only
    split
    all_goals exact hv (buildAs _ _ _).1.head _ _ _ _ _
  · have hc : rootClass n = classify n none := if_neg hk
    have hn : shownNode n = n := if_neg hk
    rw [if_neg (mt beq_iff_eq.mp hk), hc, hn, head_mapHead]
    exact hv _ _ _ _ _ _

end DesignCompiler.FromDesign
