import DesignCompiler.Proofs.FromDesign.Heads
import DesignCompiler.Proofs.FromDesign.Positioning
import DesignCompiler.Proofs.FromDesign.Remarks

/-! What is reported while the tree of a component is built. Besides what each element is remarked,
a placeholder is reported; marking repetitions and the root reports nothing, and a component set may
report a behaviour that its values tell of. -/
namespace DesignCompiler.FromDesign
open Document Element Diagnostics

section
variable {s : Surroundings} {code : DiagnosticCode}

/-- What is to be reported of all elements of a tree, in order. -/
def dues (r : ComponentRegistry) (code : DiagnosticCode) (e : Element) : List (Option String) :=
  e.walk.flatMap (due r code)

lemma dues_eq (r : ComponentRegistry) (code : DiagnosticCode) (e : Element) :
    dues r code e = due r code e.head ++ e.children.flatMap (dues r code) := by
  rw [dues, walk_eq, List.flatMap_cons, List.flatMap_assoc]
  rfl

lemma length_dues (r : ComponentRegistry) (code : DiagnosticCode) (e : Element) :
    (dues r code e).length = e.walk.countP (bears r code) := by
  rw [dues, flatMap_due, List.length_map, List.countP_eq_length_filter]

/-- An element that stands for an unread child bears that, and nothing else that is reported. -/
lemma bears_placeholder (r : ComponentRegistry) (hcode : code ∈ elementCodes) (parent : Attributes)
    (i : ℕ) (bad : InvalidChild) :
    bears r code (placeholder parent i bad).1.head = decide (code = .nodeParseFailure) := by
  have hread : isUnreadRemark ("source node could not be parsed: " ++ bad.reason) = true := by
    rw [isUnreadRemark, List.isPrefixOf_iff_prefix, String.toList_append]
    exact List.prefix_append _ _
  have hposition : noAutoLayoutWarning ≠ "source node could not be parsed: " ++ bad.reason := by
    intro he
    rw [← he, isUnreadRemark_noAutoLayout] at hread
    contradiction
  simp only [elementCodes, List.mem_cons, List.not_mem_nil, or_false] at hcode
  obtain rfl | rfl | rfl | rfl := hcode
  · simp [bears, isPlaceholder, placeholder, leaf, head, addWarning, hread]
  · simp [bears, positionsByHand, placeholder, leaf, head, addWarning, ElementHead.bare,
      Remarks.none, hposition]
  · rfl
  · rfl

lemma reported_buildChildren_cons (s : Surroundings) (parent : Attributes) (tag : String) (i : ℕ)
    (c : Child) (cs : List Child) :
    (buildChildren s parent tag i (c :: cs)).2 =
      if isShown c then
        (buildChild s parent tag i c).2 ++ (buildChildren s parent tag (i+1) cs).2
      else (buildChildren s parent tag i cs).2 := by
  rw [buildChildren]
  split <;> rfl

lemma subjects_buildChildren {parent : Attributes} {tag : String} {cs : List Child}
    (h : ∀ c ∈ cs, ∀ i, subjects (buildChild s parent tag i c).2 code =
      dues s.registry code (buildChild s parent tag i c).1) (i : ℕ) :
    subjects (buildChildren s parent tag i cs).2 code =
      (buildChildren s parent tag i cs).1.flatMap (dues s.registry code) := by
  induction cs generalizing i with
  | nil =>
    rw [buildChildren]
    rfl
  | cons c cs ih =>
    obtain ⟨hc,hcs⟩ := List.forall_mem_cons.mp h
    rw [reported_buildChildren_cons, buildChildren_cons]
    split
    · rw [subjects_append, hc, ih hcs, List.flatMap_cons]
    · exact ih hcs i

lemma subjects_assemble_buildChildren (hcode : code ∈ elementCodes) (c : Classification)
    {a : Attributes} {cs : List Child} (tag : String) (h : ∀ d ∈ cs, ∀ i,
      subjects (buildChild s a tag i d).2 code =
        dues s.registry code (buildChild s a tag i d).1) :
    subjects (assemble s c a cs (buildChildren s a tag 0 cs)).2 code =
      dues s.registry code (assemble s c a cs (buildChildren s a tag 0 cs)).1 := by
  rw [subjects_assemble hcode, dues_eq, children_assemble]
  split
  · rw [subjects_buildChildren h]
  · rfl

/-- What is reported of a slot is what is due for the elements of its tree, in order. -/
theorem subjects_buildChild (hcode : code ∈ elementCodes) (parent : Attributes) (tag : String)
    (i : ℕ) (c : Child) :
    subjects (buildChild s parent tag i c).2 code =
      dues s.registry code (buildChild s parent tag i c).1 := by
  induction c generalizing parent tag i with
  | invalid bad =>
    rw [buildChild_invalid, dues_eq, due, bears_placeholder s.registry hcode]
    rw [placeholder, subjects_warning]
    simp [leaf, children, head, addWarning, ElementHead.bare]
  | node a cs ih =>
    have hview : IgnoresPosition (due s.registry code) :=
      fun h p => due_congr rfl (bears_congr rfl rfl rfl rfl)
    rw [dues_eq, buildChild_node, children_place, hview.place, ← dues_eq, buildChild]
    exact subjects_assemble_buildChildren hcode _ _ fun d hd i => ih d hd a _ i

theorem subjects_buildAs (hcode : code ∈ elementCodes) (c : Classification) (n : Node) :
    subjects (buildAs s c n).2 code = dues s.registry code (buildAs s c n).1 :=
  subjects_assemble_buildChildren hcode c c.tag fun d _ i =>
    subjects_buildChild hcode n.attrs c.tag i d

/-- The element of a node is no placeholder, and that of an unread child is one. -/
lemma isPlaceholder_buildChild (s : Surroundings) (parent : Attributes) (tag : String) (i : ℕ)
    (c : Child) : isPlaceholder (buildChild s parent tag i c).1.head = c.node?.isNone := by
  cases c with
  | invalid bad =>
    rw [buildChild_invalid]
    exact bears_placeholder s.registry (by decide : .nodeParseFailure ∈ elementCodes) parent i bad
  | node a cs =>
    rw [buildChild_node, IgnoresPosition.place (v := isPlaceholder) (fun _ _ => rfl)]
    exact isPlaceholder_assemble s _ a cs _

end

section
variable {code : DiagnosticCode} {r : ComponentRegistry}

lemma ignoresRepetition_due (r : ComponentRegistry) (code : DiagnosticCode) :
    IgnoresRepetition (due r code) :=
  fun _ _ _ => due_congr rfl (bears_congr rfl rfl rfl rfl)

lemma dues_markRepetitions (e : Element) : dues r code (markRepetitions e) = dues r code e := by
  rw [dues, dues, List.flatMap_def, (ignoresRepetition_due r code).map_walk_markRepetitions,
    ← List.flatMap_def]

lemma dues_mapHead {f : ElementHead → ElementHead} {e : Element}
    (h : due r code (f e.head) = due r code e.head) :
    dues r code (e.mapHead f) = dues r code e := by
  rw [dues_eq, dues_eq r code e, head_mapHead, children_mapHead, h]

/-- A remark about behaviour adds no more than that to what an element bears. -/
lemma bears_addHint (hcode : code ∈ elementCodes) (nodeId hint : String) (h : ElementHead) :
    bears r code (addHint nodeId hint h).1 =
      (bears r code h || decide (code = .interactionHint)) := by
  simp only [elementCodes, List.mem_cons, List.not_mem_nil, or_false] at hcode
  obtain rfl | rfl | rfl | rfl := hcode
  · simp [bears, isPlaceholder, addHint, isUnreadRemark_of_head? (head?_hintWarning hint)]
  · simp [bears, positionsByHand, addHint, noAutoLayoutWarning_ne]
  · simp [bears, tellsOfBehaviour, addHint]
  · simp [bears, lacksComponent, addHint]

/-- The diagnostic about a behaviour that was not known before accounts for the remark. -/
lemma count_addHint (hcode : code ∈ elementCodes) (nodeId hint : String) {h : ElementHead}
    (hnone : h.remarks.interactionHint.isSome = false) :
    (if bears r code (addHint nodeId hint h).1 = true then 1 else 0) =
      (if bears r code h = true then 1 else 0) +
        Diagnostics.count (addHint nodeId hint h).2 code := by
  rw [bears_addHint hcode]
  by_cases hi : code = .interactionHint
  · subst hi
    simp [bears, tellsOfBehaviour, hnone, addHint, Diagnostics.count, Diagnostic.warning]
  · simp [hi, Ne.symm hi, addHint, Diagnostics.count, Diagnostic.warning]

/-- The head of a component set, from that of its variant. -/
def asSet (set : Node) (h : ElementHead) : ElementHead :=
  { h with
    id := elementId set.attrs.id
    sourceId := set.attrs.id
    name := set.attrs.name
    props := setProps set
    remarks := { h.remarks with isVariantContainer := true } }

/-- What a component set gives to its root is not what diagnostics are about. -/
lemma bears_asSet (r : ComponentRegistry) (code : DiagnosticCode) (set : Node) (h : ElementHead) :
    bears r code (asSet set h) = bears r code h := bears_congr rfl rfl rfl rfl

/-- A component set is its variant under a head of its own, which tells of a behaviour if the
variant does not and a value of a prop does. -/
lemma buildSet_cases (s : Surroundings) (set : Node) :
    let shown := buildAs s (named .component set.attrs.name) (defaultVariant set)
    let head := asSet set shown.1.head
    buildSet s set = (.mk head shown.1.children,shown.2) ∨
      head.remarks.interactionHint.isSome = false ∧ ∃ hint, buildSet s set =
        (.mk (addHint set.attrs.id hint head).1 shown.1.children,
          shown.2 ++ (addHint set.attrs.id hint head).2) := by
  intro shown head
  unfold buildSet
  dsimp only
  split
  case h_1 hint hset =>
    refine .inr ⟨?_,hint,rfl⟩
    rw [Bool.eq_false_iff]
    exact fun hsome => nomatch (if_pos hsome).symm.trans hset
  case h_2 => exact .inl rfl

/-- What is reported of a component set is as much as is due for the elements of its tree. Its root
has the identity of the set, but may be reported under that of the variant. -/
lemma count_buildSet (hcode : code ∈ elementCodes) (s : Surroundings) (set : Node) :
    Diagnostics.count (buildSet s set).2 code =
      (buildSet s set).1.walk.countP (bears s.registry code) := by
  have hshown := congrArg List.length (subjects_buildAs (s := s) hcode
    (named .component set.attrs.name) (defaultVariant set))
  rw [length_subjects, length_dues, walk_eq, List.countP_cons,
    ← bears_asSet s.registry code set] at hshown
  obtain hs | ⟨hnone,hint,hs⟩ := buildSet_cases s set
  · rw [hs, hshown, walk_mk, List.countP_cons]
  · rw [hs, Diagnostics.count, List.countP_append, ← Diagnostics.count, ← Diagnostics.count, hshown,
      walk_mk, List.countP_cons, count_addHint hcode set.attrs.id hint hnone, Nat.add_assoc]

end

/-- The head of the root of a component, from that of its tree. -/
def asRoot (h : ElementHead) : ElementHead :=
  { h with remarks := { h.remarks with isComponentRoot := true } }

/-- The props and the mark of a root are not what diagnostics are about. -/
lemma bears_asRoot (r : ComponentRegistry) (code : DiagnosticCode) (h : ElementHead) :
    bears r code (asRoot h) = bears r code h := bears_congr rfl rfl rfl rfl

lemma bears_props (r : ComponentRegistry) (code : DiagnosticCode) (h : ElementHead)
    (props : List PropDef) : bears r code { h with props := props } = bears r code h :=
  bears_congr rfl rfl rfl rfl

section
variable {code : DiagnosticCode} (registry : ComponentRegistry)
  (styles : Option (List (String × StyleMeta))) (n : Node)

lemma build_of_set (hk : n.attrs.kind = .componentSet) :
    let built := buildSet (surroundingsOf registry styles n) n
    build registry styles n = (markRepetitions (built.1.mapHead asRoot),built.2) := by
  unfold build
  dsimp only
  rw [if_pos (beq_iff_eq.mpr hk)]
  rfl

lemma build_of_ne_set (hk : n.attrs.kind ≠ .componentSet) :
    let built := buildAs (surroundingsOf registry styles n) (classify n none) n
    build registry styles n =
      (markRepetitions ((built.1.mapHead fun h => { h with
        props := declaredProps true n.attrs.propertyDefinitions }).mapHead asRoot),built.2) := by
  unfold build
  dsimp only
  rw [if_neg (mt beq_iff_eq.mp hk)]
  rfl

/-- What is reported of a component that is not a component set is what is due for the elements of
its tree, in order. -/
theorem subjects_build (hcode : code ∈ elementCodes) (hk : n.attrs.kind ≠ .componentSet) :
    subjects (build registry styles n).2 code = dues registry code (build registry styles n).1 := by
  rw [build_of_ne_set registry styles n hk, dues_markRepetitions,
    dues_mapHead (due_congr rfl (bears_asRoot registry code _)),
    dues_mapHead (due_congr rfl (bears_props registry code _ _))]
  exact subjects_buildAs hcode _ n

/-- Of every component as much is reported as is due for the elements of its tree. -/
theorem count_build (hcode : code ∈ elementCodes) :
    Diagnostics.count (build registry styles n).2 code =
      (build registry styles n).1.walk.countP (bears registry code) := by
  by_cases hk : n.attrs.kind = .componentSet
  · rw [← length_dues, build_of_set registry styles n hk, dues_markRepetitions,
      dues_mapHead (due_congr rfl (bears_asRoot registry code _)), length_dues]
    exact count_buildSet hcode _ n
  · rw [← length_subjects, subjects_build registry styles n hcode hk, length_dues]

/-- The root of a component does not stand for an unread child. -/
lemma isPlaceholder_build : isPlaceholder (build registry styles n).1.head = false := by
  have hshown (s : Surroundings) (c : Classification) (m : Node) :
      bears registry .nodeParseFailure (buildAs s c m).1.head = false :=
    isPlaceholder_assemble s c _ _ _
  have hmark (e : Element) :
      isPlaceholder (markRepetitions e).head = bears registry .nodeParseFailure e.head :=
    IgnoresRepetition.markRepetitions (v := isPlaceholder) (fun _ _ _ => rfl) e
  by_cases hk : n.attrs.kind = .componentSet
  · rw [build_of_set registry styles n hk, hmark, head_mapHead, bears_asRoot]
    obtain hs | ⟨-,hint,hs⟩ := buildSet_cases (surroundingsOf registry styles n) n
    · rw [hs, head, bears_asSet, hshown]
    · rw [hs, head, bears_addHint (by decide), bears_asSet, hshown]
      rfl
  · rw [build_of_ne_set registry styles n hk, hmark, head_mapHead, bears_asRoot, head_mapHead,
      bears_props, hshown]

/-- A child that stands for a slot stands for an unread one exactly if the slot holds no node. -/
lemma Renders.isPlaceholder_eq {s : Surroundings} {m : Node} {f g : Element} {i : ℕ} {c : Child}
    (hr : Renders s m f) (slot : (m.children.filter isShown)[i]? = some c)
    (place : f.children[i]? = some g) : isPlaceholder g.head = c.node?.isNone := by
  obtain h | ⟨tag,h⟩ := hr
  · rw [h] at place
    contradiction
  · rw [h, List.getElem?_map, getElem?_buildChildren, slot] at place
    cases place
    rw [IgnoresRepetition.markRepetitions (v := isPlaceholder) (fun _ _ _ => rfl)]
    exact isPlaceholder_buildChild s m.attrs tag _ c

/-- While the tree of a component is built, there is one diagnostic for every child that could not
be read, for every container that positions its children by hand, for every element that tells of
behaviour and for every instance without a known component. Unless the component is a set, these
diagnostics are about their elements, in order. -/
theorem diagnostics_match_elements :
    (Diagnostics.count (build registry styles n).2 .nodeParseFailure =
        (build registry styles n).1.walk.countP isPlaceholder ∧
      Diagnostics.count (build registry styles n).2 .noAutoLayout =
        (build registry styles n).1.walk.countP positionsByHand ∧
      Diagnostics.count (build registry styles n).2 .interactionHint =
        (build registry styles n).1.walk.countP tellsOfBehaviour ∧
      Diagnostics.count (build registry styles n).2 .nodeNotFound =
        (build registry styles n).1.walk.countP (lacksComponent registry)) ∧
    isPlaceholder (build registry styles n).1.head = false ∧
    (∀ m f, StandsFor (shownNode n) (build registry styles n).1 m f →
      ∀ (i : ℕ) (c : Child) (g : Element), (m.children.filter isShown)[i]? = some c →
        f.children[i]? = some g → isPlaceholder g.head = c.node?.isNone) ∧
    (n.attrs.kind ≠ .componentSet → ∀ code ∈ elementCodes,
      subjects (build registry styles n).2 code =
        ((build registry styles n).1.walk.filter (bears registry code)).map
          fun h => some h.sourceId) := by
  refine ⟨⟨?_,?_,?_,?_⟩,isPlaceholder_build registry styles n,?_,?_⟩
  · exact count_build registry styles n (by decide : .nodeParseFailure ∈ elementCodes)
  · exact count_build registry styles n (by decide : .noAutoLayout ∈ elementCodes)
  · exact count_build registry styles n (by decide : .interactionHint ∈ elementCodes)
  · exact count_build registry styles n (by decide : .nodeNotFound ∈ elementCodes)
  · exact fun m f hm i c g => hm.renders.isPlaceholder_eq
  · intro hk code hcode
    rw [subjects_build registry styles n hcode hk, dues, flatMap_due]

/-- A menu that positions a toggle, an instance of an unknown component and a child that could not
be read: each of them is reported once, and so is the menu. -/
theorem diagnostics_match_elements_menu :
    let toggle := Attributes.bare "2" "Toggle" .frame
    let card : Attributes :=
      { Attributes.bare "3" "Card" .componentInstance with componentId := some "9" }
    let unread : InvalidChild := ⟨some "4",none,"no type"⟩
    let menu : Node := ⟨.bare "1" "Menu" .frame,[.node toggle [],.node card [],.invalid unread]⟩
    let root := (build .empty none menu).1
    let reported := (build .empty none menu).2
    menu.attrs.kind ≠ .componentSet ∧
    (∃ g : Element, root.children[2]? = some g ∧ isPlaceholder g.head = true) ∧
    subjects reported .nodeParseFailure = [some "4"] ∧
    subjects reported .noAutoLayout = [some "1"] ∧
    subjects reported .interactionHint = [some "2"] ∧
    subjects reported .nodeNotFound = [some "3"] := by
  intro toggle card unread menu root reported
  obtain ⟨-,-,hplaces,hsubjects⟩ := diagnostics_match_elements .empty none menu
  have hk : menu.attrs.kind ≠ .componentSet := by decide
  have hlen : root.children.length = 3 := by decide +kernel
  have hplace : root.children[2]? = some root.children[2] := List.getElem?_eq_getElem _
  refine ⟨hk,⟨_,hplace,hplaces menu root .root 2 (.invalid unread) _ rfl hplace⟩,?_,?_,?_,?_⟩
  · exact (hsubjects hk .nodeParseFailure (by decide)).trans (by decide +kernel)
  · exact (hsubjects hk .noAutoLayout (by decide)).trans (by decide +kernel)
  · exact (hsubjects hk .interactionHint (by decide)).trans (by decide +kernel)
  · exact (hsubjects hk .nodeNotFound (by decide)).trans (by decide +kernel)

end

end DesignCompiler.FromDesign
