import DesignCompiler.Proofs.FromDesign.Assembly
import DesignCompiler.Proofs.FromDesign.Repetition

/-! Absolute positions in the tree of a component. An element has one exactly when the node of its
parent does not arrange it; its parent is then the origin, and both axes are held. -/
namespace DesignCompiler

/-- An inset holds both axes: to the left or the right, and to the top or the bottom. -/
def Inset.Holds (i : Inset) : Prop :=
  (i.left.isSome = true ∨ i.right.isSome = true) ∧ (i.top.isSome = true ∨ i.bottom.isSome = true)

/-- Whether an element is absolutely positioned. -/
def Element.isAbsolute (e : Element) : Bool := e.head.layout.position.isAbsolute

/-- The absolute positions at an element are anchored: it is the origin of those of its children,
and holds both axes of its own. -/
structure Element.Anchored (e : Element) : Prop where
  origin : (∃ c ∈ e.children, c.isAbsolute = true) →
    (e.head.layout.position = .relative ∨ e.isAbsolute = true) ∧
      e.head.remarks.hasAbsoluteChildren = true
  held : ∀ i, e.head.layout.position = .absolute i → i.Holds

namespace FromDesign
open Document Element

/-- Below an element that stands for a node, each element stands for a node: the children, in order,
for those of the node that are shown. -/
inductive StandsFor (n : Node) (root : Element) : Node → Element → Prop
  | root : StandsFor n root n root
  | child {m : Node} {f g : Element} {a : Attributes} {cs : List Child} {i : ℕ}
    (parent : StandsFor n root m f) (slot : (m.children.filter isShown)[i]? = some (.node a cs))
    (place : f.children[i]? = some g) : StandsFor n root ⟨a,cs⟩ g

/-- An absolute position holds both axes, whatever is known of the boxes. -/
lemma absolutePosition_eq (a : Attributes) (origin : Option Rect) :
    ∃ i, absolutePosition a origin = .absolute i ∧ i.Holds := by
  unfold absolutePosition
  split
  · dsimp only
    split <;> split <;> exact ⟨_,rfl,by simp [Inset.Holds]⟩
  · exact ⟨_,rfl,by simp [Inset.Holds]⟩

section
variable {s : Surroundings} {parent a : Attributes} {tag : String} {cs : List Child} {i : ℕ}

/-- Before it is placed an element is not absolutely positioned. -/
lemma isAbsolute_assemble (s : Surroundings) (c : Classification) (a : Attributes)
    (cs : List Child) (built : Reported (List Element)) :
    (assemble s c a cs built).1.isAbsolute = false := by
  rw [isAbsolute, (headOf_assemble s c a cs built).position]
  split <;> rfl

/-- The element of a node is absolutely positioned when its parent does not arrange it. -/
theorem isAbsolute_buildChild_node : (buildChild s parent tag i (.node a cs)).1.isAbsolute =
    (!parent.hasAutoLayout || isExplicitlyAbsolute a) := by
  rw [buildChild_node]
  obtain ⟨⟨hp,he⟩ | ⟨hp,he⟩,-⟩ := place_cases parent a
    (assemble s (classify ⟨a,cs⟩ (some tag)) a cs
      (buildChildren s a (classify ⟨a,cs⟩ (some tag)).tag 0 cs)).1
  · obtain ⟨inset,hi,-⟩ := absolutePosition_eq a parent.bounds
    rw [isAbsolute, he, hi, hp]
    rfl
  · rw [isAbsolute, he, hp]
    exact isAbsolute_assemble _ _ _ _ _

lemma isAbsolute_placeholder (parent : Attributes) (i : ℕ) (bad : InvalidChild) :
    (placeholder parent i bad).1.isAbsolute = false := rfl

/-- An assembled element is the origin of the absolute positions of its children. -/
lemma anchored_assemble (s : Surroundings) (c : Classification) (a : Attributes)
    (cs : List Child) (tag : String) :
    (assemble s c a cs (buildChildren s a tag 0 cs)).1.Anchored := by
  have hh := headOf_assemble s c a cs (buildChildren s a tag 0 cs)
  refine ⟨?_,?_⟩
  · rintro ⟨e,he,habs⟩
    rw [children_assemble_buildChildren] at he
    by_cases hk : c.kind.holdsChildren = true
    · rw [if_pos hk] at he
      obtain ⟨d,hd,hshown,k,rfl⟩ := mem_buildChildren s a tag he
      cases d with
      | invalid bad =>
        rw [buildChild_invalid, isAbsolute_placeholder] at habs
        contradiction
      | node b ds =>
        rw [isAbsolute_buildChild_node] at habs
        have ho : anchors a cs = true :=
          List.any_eq_true.mpr ⟨_,List.mem_filter.mpr ⟨hd,hshown⟩,habs⟩
        rw [hk, ho] at hh
        exact ⟨.inl hh.position,hh.origin⟩
    · rw [if_neg hk] at he
      contradiction
  · intro inset hi
    have hp := hh.position
    rw [hi] at hp
    split at hp <;> contradiction

lemma anchored_place {e : Element} (h : e.Anchored) (parent a : Attributes) :
    (place parent a e).Anchored := by
  obtain ⟨hp,hc,-,hr⟩ := place_cases parent a e
  obtain ⟨inset,hi,hheld⟩ := absolutePosition_eq a parent.bounds
  refine ⟨?_,?_⟩
  · rw [hc, hr]
    intro habs
    obtain ⟨hpos,hmark⟩ := h.origin habs
    refine ⟨?_,hmark⟩
    obtain ⟨-,he⟩ | ⟨-,he⟩ := hp
    · right
      rw [isAbsolute, he, hi]
      rfl
    · rw [isAbsolute, he]
      exact hpos
  · intro j hj
    obtain ⟨-,he⟩ | ⟨-,he⟩ := hp
    · rw [he, hi, Position.absolute.injEq] at hj
      exact hj ▸ hheld
    · exact h.held j (he ▸ hj)

theorem anchored_buildChild (s : Surroundings) (parent : Attributes) (tag : String) (i : ℕ)
    (c : Child) : (buildChild s parent tag i c).1.Anchored := by
  cases c with
  | invalid bad =>
    rw [buildChild_invalid]
    exact ⟨fun ⟨_,he,_⟩ => (nomatch he),fun _ hi => (nomatch hi)⟩
  | node a cs =>
    rw [buildChild_node]
    exact anchored_place (anchored_assemble s _ a cs _) parent a

lemma anchored_markRepetitions {e : Element} (h : e.Anchored) :
    (markRepetitions e).Anchored := by
  have hl (f : Element) : (markRepetitions f).head.layout = f.head.layout :=
    IgnoresRepetition.markRepetitions (fun _ _ _ => rfl) f
  have ho : (markRepetitions e).head.remarks.hasAbsoluteChildren =
      e.head.remarks.hasAbsoluteChildren :=
    IgnoresRepetition.markRepetitions (v := (·.remarks.hasAbsoluteChildren))
      (fun _ _ _ => rfl) e
  refine ⟨?_,?_⟩
  · rintro ⟨g,hg,habs⟩
    rw [children_markRepetitions] at hg
    obtain ⟨f,hf,rfl⟩ := List.mem_map.mp hg
    rw [isAbsolute, hl] at habs
    rw [isAbsolute, hl, ho]
    exact h.origin ⟨f,hf,habs⟩
  · intro i hi
    rw [hl] at hi
    exact h.held i hi

/-- Every element in the tree of a component is anchored. -/
theorem anchored_build (registry : ComponentRegistry)
    (styles : Option (List (String × StyleMeta))) (n : Node) :
    ∀ e ∈ (build registry styles n).1.subtrees, e.Anchored := by
  obtain ⟨h,hr,he⟩ := build_eq registry styles n
  rw [he, subtrees_markRepetitions]
  intro e hmem
  obtain ⟨f,hf,rfl⟩ := List.mem_map.mp hmem
  apply anchored_markRepetitions
  rw [subtrees_mk, List.mem_cons] at hf
  obtain rfl | hf := hf
  · have ha := anchored_assemble (surroundingsOf registry styles n) (rootClass n)
      (shownNode n).attrs (shownNode n).children (rootClass n).tag
    refine ⟨?_,?_⟩
    · rw [isAbsolute, head, hr.layout, hr.origin]
      exact ha.origin
    · rw [head, hr.layout]
      exact ha.held
  · obtain ⟨parent,tag,i,c,-,rfl⟩ := mem_subtrees_buildAs hf
    exact anchored_buildChild _ parent tag i c

/-- The root of a component is not absolutely positioned. -/
lemma isAbsolute_build (registry : ComponentRegistry)
    (styles : Option (List (String × StyleMeta))) (n : Node) :
    (build registry styles n).1.isAbsolute = false := by
  obtain ⟨h,hr,he⟩ := build_eq registry styles n
  rw [he, isAbsolute, IgnoresRepetition.markRepetitions (v := (·.layout)) (fun _ _ _ => rfl),
    head, hr.layout]
  exact isAbsolute_assemble _ _ _ _ _

/-- The children of an element are those that were built for its node, if it holds any. -/
def Renders (s : Surroundings) (n : Node) (e : Element) : Prop :=
  e.children = [] ∨
    ∃ tag, e.children = (buildChildren s n.attrs tag 0 n.children).1.map markRepetitions

lemma renders_of_children_eq {s : Surroundings} {c : Classification} {n : Node} {tag : String}
    {e : Element} (he : e.children = (assemble s c n.attrs n.children
      (buildChildren s n.attrs tag 0 n.children)).1.children.map markRepetitions) :
    Renders s n e := by
  rw [children_assemble_buildChildren] at he
  split at he
  · exact .inr ⟨tag,he⟩
  · exact .inl he

lemma Renders.length_eq {s : Surroundings} {n : Node} {e : Element} (hr : Renders s n e) :
    e.children = [] ∨ e.children.length = (n.children.filter isShown).length := by
  obtain h | ⟨tag,h⟩ := hr
  · exact .inl h
  · right
    rw [h, List.length_map, length_buildChildren]

/-- A child stands for the node in the slot with its number. -/
lemma Renders.child {s : Surroundings} {m : Node} {f g : Element} {i : ℕ} {a : Attributes}
    {cs : List Child} (hr : Renders s m f)
    (slot : (m.children.filter isShown)[i]? = some (.node a cs))
    (place : f.children[i]? = some g) :
    ∃ tag, g = markRepetitions (buildChild s m.attrs tag i (.node a cs)).1 := by
  obtain h | ⟨tag,h⟩ := hr
  · rw [h] at place
    contradiction
  · rw [h, List.getElem?_map, getElem?_buildChildren, slot, Nat.zero_add] at place
    exact ⟨tag,(Option.some.inj place).symm⟩

theorem StandsFor.renders {registry : ComponentRegistry}
    {styles : Option (List (String × StyleMeta))} {n m : Node} {f : Element}
    (h : StandsFor (shownNode n) (build registry styles n).1 m f) :
    Renders (surroundingsOf registry styles n) m f := by
  induction h with
  | root =>
    obtain ⟨h,-,he⟩ := build_eq registry styles n
    apply renders_of_children_eq
    rw [he, children_markRepetitions]
    rfl
  | child parent slot place ih =>
    obtain ⟨tag,rfl⟩ := ih.child slot place
    apply renders_of_children_eq
    rw [children_markRepetitions, buildChild_node, children_place]

/-- In the tree of a component the root is not absolutely positioned, every absolute position is
anchored, and the element of a node has one exactly when the node of its parent does not arrange
it. -/
theorem absolute_positions_anchored (registry : ComponentRegistry)
    (styles : Option (List (String × StyleMeta))) (n : Node) :
    (build registry styles n).1.isAbsolute = false ∧
    (∀ e ∈ (build registry styles n).1.subtrees, e.Anchored) ∧
    ∀ m f, StandsFor (shownNode n) (build registry styles n).1 m f →
      (f.children = [] ∨ f.children.length = (m.children.filter isShown).length) ∧
      ∀ (i : ℕ) (a : Attributes) (cs : List Child) (g : Element),
        (m.children.filter isShown)[i]? = some (.node a cs) → f.children[i]? = some g →
        g.head.sourceId = a.id ∧
        (g.isAbsolute = true ↔
          m.attrs.hasAutoLayout = false ∨ isExplicitlyAbsolute a = true) := by
  refine ⟨isAbsolute_build registry styles n,anchored_build registry styles n,?_⟩
  intro m f hm
  refine ⟨hm.renders.length_eq,?_⟩
  intro i a cs g slot place
  obtain ⟨tag,rfl⟩ := hm.renders.child slot place
  constructor
  · rw [IgnoresRepetition.markRepetitions (v := (·.sourceId)) (fun _ _ _ => rfl),
      buildChild_node, (place_cases _ _ _).2.2.1]
    exact (headOf_assemble _ _ _ _ _).sourceId
  · rw [isAbsolute, IgnoresRepetition.markRepetitions (v := (·.layout)) (fun _ _ _ => rfl),
      ← isAbsolute, isAbsolute_buildChild_node, Bool.or_eq_true, Bool.not_eq_true']

/-- A badge that has opted out of a row, in a frame that a canvas positions by hand. -/
theorem absolute_positions_anchored_badge :
    let badge : Attributes :=
      { Attributes.bare "3" "Badge" .frame with positioning := some .absolute }
    let row : Attributes := { Attributes.bare "2" "Row" .frame with layoutMode := some .horizontal }
    let canvas : Node := ⟨.bare "1" "Canvas" .frame,[.node row [.node badge []]]⟩
    let root := (build .empty none canvas).1
    root.isAbsolute = false ∧
    ∃ f ∈ root.children, f.head.sourceId = "2" ∧ f.isAbsolute = true ∧
      ∃ g ∈ f.children, g.head.sourceId = "3" ∧ g.isAbsolute = true ∧
        f.head.remarks.hasAbsoluteChildren = true := by
  intro badge row canvas root
  obtain ⟨hroot,hall,hplaced⟩ := absolute_positions_anchored .empty none canvas
  have hlen : root.children.map (·.children.length) = [1] := by decide +kernel
  obtain ⟨f,hf,hlen⟩ := List.map_eq_singleton_iff.mp hlen
  obtain ⟨g,hg⟩ := List.length_eq_one_iff.mp hlen
  have hr : StandsFor (shownNode canvas) root canvas root := .root
  have hplace : root.children[0]? = some f := by
    rw [hf]
    rfl
  have hplace' : f.children[0]? = some g := by
    rw [hg]
    rfl
  obtain ⟨hid,habs⟩ := (hplaced canvas root hr).2 0 row [.node badge []] f rfl hplace
  have hslot : (canvas.children.filter isShown)[0]? = some (.node row [.node badge []]) := rfl
  have hrow := hr.child hslot hplace
  obtain ⟨hid',habs'⟩ := (hplaced _ f hrow).2 0 badge [] g rfl hplace'
  have hmem : f ∈ root.subtrees := mem_subtrees_of_mem_children (by simp [hf])
  have habs' := habs'.mpr (.inr rfl)
  refine ⟨hroot,f,by simp [hf],hid,habs.mpr (.inl rfl),g,by simp [hg],hid',habs',?_⟩
  exact ((hall f hmem).origin ⟨g,by simp [hg],habs'⟩).2

end

end FromDesign

end DesignCompiler
