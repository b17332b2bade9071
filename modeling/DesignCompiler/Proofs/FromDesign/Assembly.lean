import DesignCompiler.FromDesign.Tree
import DesignCompiler.Proofs.Document.Tree
import DesignCompiler.Proofs.Element.Tree

/-! How an element is assembled: what its head takes from its node, and which children it holds. All
that is proved of whole trees goes back to these facts. -/
namespace DesignCompiler

namespace FromDesign
open Document Element

/-- Whether a node is the origin of absolute positions: it has a shown child that it does not
arrange. -/
def anchors (a : Attributes) (children : List Child) : Bool :=
  (children.filter isShown).any fun c => !a.hasAutoLayout || isOptedOut c

/-- What the head of an element takes from its node. -/
structure HeadOf (a : Attributes) (kind : ElementKind) (origin : Bool) (h : ElementHead) :
    Prop where
  sourceId : h.sourceId = a.id
  kind : h.kind = kind
  position : h.layout.position = if origin then .relative else .static
  origin : h.remarks.hasAbsoluteChildren = origin

section
variable {a : Attributes} {kind : ElementKind} {origin : Bool} {h : ElementHead}

lemma layoutOf_position (a : Attributes) : (layoutOf a).position = .static := by
  unfold layoutOf
  split <;> rfl

lemma HeadOf.addHint (hh : HeadOf a kind origin h) (nodeId hint : String) :
    HeadOf a kind origin (addHint nodeId hint h).1 :=
  ⟨hh.sourceId,hh.kind,hh.position,hh.origin⟩

lemma HeadOf.addWarning (hh : HeadOf a kind origin h) (warning : String) :
    HeadOf a kind origin (addWarning warning h) :=
  ⟨hh.sourceId,hh.kind,hh.position,hh.origin⟩

lemma HeadOf.withContent (hh : HeadOf a kind origin h) (s : Surroundings) :
    HeadOf a kind origin (withContent s a h) :=
  ⟨hh.sourceId,hh.kind,hh.position,hh.origin⟩

lemma HeadOf.withComponent (hh : HeadOf a kind origin h) (s : Surroundings) :
    HeadOf a kind origin (withComponent s a h).1 := by
  unfold FromDesign.withComponent
  cases a.componentId with
  | none => exact hh.addWarning _
  | some id =>
    have hi : HeadOf a kind origin { h with instanceOf := some ⟨id,overridesOf a⟩ } :=
      ⟨hh.sourceId,hh.kind,hh.position,hh.origin⟩
    cases hr : s.registry.get? id with
    | none => simpa only [hr] using hi.addWarning _
    | some entry =>
      simp only [hr]
      exact ⟨hi.sourceId,hi.kind,hi.position,hi.origin⟩

lemma headOf_startHead (s : Surroundings) (c : Classification) (a : Attributes) :
    HeadOf a c.kind false (startHead s c a).1 := by
  unfold startHead
  cases interactionHint a.name with
  | none => exact ⟨rfl,rfl,layoutOf_position a,rfl⟩
  | some hint => exact ⟨rfl,rfl,layoutOf_position a,rfl⟩

/-- With children that are shown, a head becomes an origin when it has to be one. -/
lemma HeadOf.withShownChildren (hh : HeadOf a kind false h) {children : List Child}
    (hs : children.filter isShown ≠ []) :
    HeadOf a kind (anchors a children)
      (withShownChildren a (children.filter isShown) h).1 := by
  have ha : anchors a children =
      (!a.hasAutoLayout || (children.filter isShown).any isOptedOut) := by
    unfold anchors
    cases hl : a.hasAutoLayout with
    | true => simp
    | false => simpa using List.exists_mem_of_ne_nil _ hs
  unfold FromDesign.withShownChildren
  rw [ha]
  cases hl : a.hasAutoLayout with
  | false => exact ⟨hh.sourceId,hh.kind,rfl,rfl⟩
  | true =>
    cases ho : (children.filter isShown).any isOptedOut with
    | false => simpa [hl, ho] using hh
    | true => exact ⟨hh.sourceId,hh.kind,rfl,rfl⟩

end

/-- The head of an assembled element: only what holds children can become an origin. -/
theorem headOf_assemble (s : Surroundings) (c : Classification) (a : Attributes)
    (children : List Child) (built : Reported (List Element)) :
    HeadOf a c.kind (c.kind.holdsChildren && anchors a children)
      (assemble s c a children built).1.head := by
  have hs := headOf_startHead s c a
  unfold assemble
  cases hk : c.kind <;> rw [hk] at hs
  case text => exact hs.withContent s
  case componentInstance => exact hs.withComponent s
  case image | icon | divider => exact hs
  case container | component =>
    cases hf : children.filter isShown with
    | nil =>
      have ho : anchors a children = false := by
        rw [anchors, hf]
        rfl
      rw [ho, Bool.and_false]
      exact hs
    | cons d ds =>
      have hw := hs.withShownChildren (show children.filter isShown ≠ [] by simp [hf])
      rw [hf] at hw
      exact hw

theorem children_assemble (s : Surroundings) (c : Classification) (a : Attributes)
    (children : List Child) (built : Reported (List Element)) :
    (assemble s c a children built).1.children =
      if c.kind.holdsChildren && children.any isShown then built.1 else [] := by
  unfold assemble
  cases c.kind
  case container | component =>
    cases hf : children.filter isShown with
    | nil =>
      have hn : children.any isShown = false := by
        rw [List.any_eq_false]
        exact List.filter_eq_nil_iff.mp hf
      rw [hn]
      rfl
    | cons d ds =>
      have hy : children.any isShown = true := by
        rw [List.any_eq_true]
        exact ⟨d,List.mem_filter.mp (hf ▸ List.mem_cons_self)⟩
      rw [hy]
      rfl
  all_goals rfl

section
variable (s : Surroundings) (parent : Attributes) (tag : String)

lemma buildChildren_cons (i : ℕ) (c : Child) (cs : List Child) :
    (buildChildren s parent tag i (c :: cs)).1 =
      if isShown c then
        (buildChild s parent tag i c).1 :: (buildChildren s parent tag (i+1) cs).1
      else (buildChildren s parent tag i cs).1 := by
  rw [buildChildren]
  split <;> rfl

/-- The children that are shown become elements, in order and with their numbers. -/
theorem getElem?_buildChildren (i k : ℕ) (cs : List Child) :
    (buildChildren s parent tag i cs).1[k]? =
      (cs.filter isShown)[k]?.map fun c => (buildChild s parent tag (i+k) c).1 := by
  induction cs generalizing i k with
  | nil => rfl
  | cons c cs ih =>
    rw [buildChildren_cons, List.filter_cons]
    by_cases hc : isShown c = true
    · rw [if_pos hc, if_pos hc]
      cases k with
      | zero => rfl
      | succ k =>
        rw [List.getElem?_cons_succ, List.getElem?_cons_succ, ih]
        congr 2
        funext d
        rw [Nat.add_right_comm, Nat.add_assoc]
    · rw [if_neg hc, if_neg hc, ih]

lemma length_buildChildren (i : ℕ) (cs : List Child) :
    (buildChildren s parent tag i cs).1.length = (cs.filter isShown).length := by
  induction cs generalizing i with
  | nil => rfl
  | cons c cs ih =>
    rw [buildChildren_cons, List.filter_cons]
    split
    · rw [List.length_cons, List.length_cons, ih]
    · exact ih i

/-- An element among the built ones stands for a child that is shown. -/
theorem mem_buildChildren {i : ℕ} {cs : List Child} {e : Element}
    (he : e ∈ (buildChildren s parent tag i cs).1) :
    ∃ c ∈ cs, isShown c = true ∧ ∃ k, e = (buildChild s parent tag k c).1 := by
  obtain ⟨k,hk⟩ := List.mem_iff_getElem?.mp he
  rw [getElem?_buildChildren, Option.map_eq_some_iff] at hk
  obtain ⟨c,hc,rfl⟩ := hk
  obtain ⟨hmem,hshown⟩ := List.mem_filter.mp (List.mem_of_getElem? hc)
  exact ⟨c,hmem,hshown,_,rfl⟩

/-- The children of an assembled element are all that were built, if it holds any. -/
theorem children_assemble_buildChildren (c : Classification) (cs : List Child) :
    (assemble s c parent cs (buildChildren s parent tag 0 cs)).1.children =
      if c.kind.holdsChildren then (buildChildren s parent tag 0 cs).1 else [] := by
  rw [children_assemble]
  by_cases hs : cs.any isShown = true
  · rw [hs, Bool.and_true]
  · have hn : (buildChildren s parent tag 0 cs).1 = [] := by
      rw [← List.length_eq_zero_iff, length_buildChildren, List.length_eq_zero_iff,
        List.filter_eq_nil_iff]
      simpa using hs
    rw [hn, ite_self, ite_self]

lemma buildChild_node (i : ℕ) (a : Attributes) (cs : List Child) :
    (buildChild s parent tag i (.node a cs)).1 =
      place parent a (assemble s (classify ⟨a,cs⟩ (some tag)) a cs
        (buildChildren s a (classify ⟨a,cs⟩ (some tag)).tag 0 cs)).1 := by
  rw [buildChild]

lemma buildChild_invalid (i : ℕ) (bad : InvalidChild) :
    buildChild s parent tag i (.invalid bad) = placeholder parent i bad := by
  rw [buildChild]

end

/-- What placing an element in its parent does: it can make the position absolute. -/
theorem place_cases (parent a : Attributes) (e : Element) :
    ((!parent.hasAutoLayout || isExplicitlyAbsolute a) = true ∧
      (place parent a e).head.layout.position = absolutePosition a parent.bounds ∨
    (!parent.hasAutoLayout || isExplicitlyAbsolute a) = false ∧
      (place parent a e).head.layout.position = e.head.layout.position) ∧
    (place parent a e).children = e.children ∧
    (place parent a e).head.sourceId = e.head.sourceId ∧
    (place parent a e).head.remarks = e.head.remarks := by
  unfold place
  split_ifs with h
  · refine ⟨.inl ⟨h,?_⟩,?_,?_,?_⟩ <;> simp
  · exact ⟨.inr ⟨eq_false_of_ne_true h,rfl⟩,rfl,rfl,rfl⟩

lemma children_place (parent a : Attributes) (e : Element) :
    (place parent a e).children = e.children := (place_cases parent a e).2.1

/-- Every element in the tree of a slot is itself the element of a slot inside it. -/
theorem mem_subtrees_buildChild {s : Surroundings} {parent : Attributes} {tag : String} {i : ℕ}
    {c : Child} {e : Element} (he : e ∈ (buildChild s parent tag i c).1.subtrees) :
    ∃ parent' tag' i', ∃ c' ∈ c.subtrees, e = (buildChild s parent' tag' i' c').1 := by
  induction c generalizing parent tag i with
  | invalid bad =>
    rw [buildChild_invalid, placeholder, leaf, subtrees_mk] at he
    refine ⟨parent,tag,i,.invalid bad,Child.mem_subtrees_self _,?_⟩
    rw [buildChild_invalid]
    exact List.mem_singleton.mp he
  | node a cs ih =>
    rw [subtrees_eq, List.mem_cons] at he
    obtain rfl | he := he
    · exact ⟨parent,tag,i,.node a cs,Child.mem_subtrees_self _,rfl⟩
    · rw [buildChild_node, children_place, children_assemble_buildChildren] at he
      split at he
      · obtain ⟨f,hf,he⟩ := List.mem_flatMap.mp he
        obtain ⟨d,hd,-,k,rfl⟩ := mem_buildChildren s a _ hf
        obtain ⟨parent',tag',i',c',hc',rfl⟩ := ih d hd he
        refine ⟨parent',tag',i',c',?_,rfl⟩
        rw [Child.subtrees_node]
        exact List.mem_cons_of_mem _ (List.mem_flatMap.mpr ⟨d,hd,hc'⟩)
      · contradiction

/-- Every element below the root of a tree is the element of a slot below the node. -/
theorem mem_subtrees_buildAs {s : Surroundings} {c : Classification} {n : Node} {e : Element}
    (he : e ∈ (buildAs s c n).1.children.flatMap subtrees) :
    ∃ parent tag i, ∃ c ∈ n.children.flatMap Child.subtrees,
      e = (buildChild s parent tag i c).1 := by
  obtain ⟨f,hf,he⟩ := List.mem_flatMap.mp he
  rw [buildAs, children_assemble_buildChildren] at hf
  split at hf
  · obtain ⟨d,hd,-,k,rfl⟩ := mem_buildChildren s n.attrs _ hf
    obtain ⟨parent,tag,i,c,hc,he⟩ := mem_subtrees_buildChild he
    exact ⟨parent,tag,i,c,List.mem_flatMap.mpr ⟨d,hd,hc⟩,he⟩
  · contradiction

/-- Every head below the root of a tree is that of the element of a slot below the node. -/
lemma head_eq_of_mem_walk {s : Surroundings} {c : Classification} {n : Node} {root h : ElementHead}
    (hh : h ∈ (Element.mk root (buildAs s c n).1.children).walk) :
    h = root ∨ ∃ parent tag i, ∃ c ∈ n.children.flatMap Child.subtrees,
      h = (buildChild s parent tag i c).1.head := by
  rw [walk_mk, List.mem_cons] at hh
  obtain rfl | hh := hh
  · exact .inl rfl
  · obtain ⟨e,he,hh⟩ := List.mem_flatMap.mp hh
    rw [← map_head_subtrees] at hh
    obtain ⟨f,hf,rfl⟩ := List.mem_map.mp hh
    obtain ⟨parent,tag,i,c,hc,rfl⟩ := mem_subtrees_buildAs (List.mem_flatMap.mpr ⟨e,he,hf⟩)
    exact .inr ⟨parent,tag,i,c,hc,rfl⟩

/-- The kind of a node's element does not depend on where the node stands. -/
theorem kind_classify (n : Node) (parentTag : Option String) :
    (classify n parentTag).kind = (classify n none).kind := by
  unfold classify
  dsimp only
  cases n.attrs.kind <;> rfl

/-- The variant that a component set is shown by: the first child that could be read, or the set
itself. -/
def defaultVariant (set : Node) : Node := set.nodes.head?.getD set

/-- The node whose children a component shows. -/
def shownNode (n : Node) : Node :=
  if n.attrs.kind = .componentSet then defaultVariant n else n

/-- The classification of the root of a component. -/
def rootClass (n : Node) : Classification :=
  if n.attrs.kind = .componentSet then named .component n.attrs.name else classify n none

/-- The props of a component. -/
def rootProps (n : Node) : List PropDef :=
  if n.attrs.kind = .componentSet then setProps n
  else declaredProps true n.attrs.propertyDefinitions

/-- What the tree of a component is built with. -/
def surroundingsOf (registry : ComponentRegistry) (styles : Option (List (String × StyleMeta)))
    (n : Node) : Surroundings :=
  ⟨registry,styles,textPropNames n.attrs.propertyDefinitions⟩

/-- What the head of a component's root takes from the component and from the element of the node
that is shown. -/
structure RootOf (n : Node) (shown h : ElementHead) : Prop where
  sourceId : h.sourceId = n.attrs.id
  props : h.props = rootProps n
  layout : h.layout = shown.layout
  origin : h.remarks.hasAbsoluteChildren = shown.remarks.hasAbsoluteChildren
  binding : h.remarks.propBinding = shown.remarks.propBinding

lemma buildSet_eq (s : Surroundings) {set : Node} (hk : set.attrs.kind = .componentSet) :
    ∃ h, RootOf set (buildAs s (rootClass set) (shownNode set)).1.head h ∧
      (buildSet s set).1 = .mk h (buildAs s (rootClass set) (shownNode set)).1.children := by
  have hc : rootClass set = named .component set.attrs.name := if_pos hk
  have hn : shownNode set = defaultVariant set := if_pos hk
  have hp : rootProps set = setProps set := if_pos hk
  rw [hc, hn]
  unfold buildSet
  dsimp only
  split
  all_goals refine ⟨_,?_,rfl⟩
  all_goals exact ⟨rfl,hp.symm,rfl,rfl,rfl⟩

/-- The tree of a component is that of the node that is shown, under a root of its own. -/
theorem build_eq (registry : ComponentRegistry) (styles : Option (List (String × StyleMeta)))
    (n : Node) : ∃ h, RootOf n
        (buildAs (surroundingsOf registry styles n) (rootClass n) (shownNode n)).1.head h ∧
      (build registry styles n).1 = markRepetitions (.mk h
        (buildAs (surroundingsOf registry styles n) (rootClass n) (shownNode n)).1.children) := by
  unfold build
  dsimp only
  by_cases hk : n.attrs.kind = .componentSet
  · obtain ⟨h,hr,he⟩ := buildSet_eq (surroundingsOf registry styles n) hk
    rw [if_pos (beq_iff_eq.mpr hk)]
    change ∃ _, _ ∧
      markRepetitions (mapHead _ (buildSet (surroundingsOf registry styles n) n).1) = _
    rw [he]
    refine ⟨_,?_,rfl⟩
    exact ⟨hr.sourceId,hr.props,hr.layout,hr.origin,hr.binding⟩
  · have hc : rootClass n = classify n none := if_neg hk
    have hn : shownNode n = n := if_neg hk
    have hp : rootProps n = declaredProps true n.attrs.propertyDefinitions := if_neg hk
    have hs := (headOf_assemble (surroundingsOf registry styles n) (classify n none) n.attrs
      n.children (buildChildren (surroundingsOf registry styles n) n.attrs (classify n none).tag 0
        n.children)).sourceId
    rw [if_neg (mt beq_iff_eq.mp hk), hc, hn, mapHead_eq, mapHead_eq]
    refine ⟨_,?_,rfl⟩
    exact ⟨hs,hp.symm,rfl,rfl,rfl⟩

end FromDesign

end DesignCompiler
