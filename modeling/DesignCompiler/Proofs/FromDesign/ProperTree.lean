import DesignCompiler.Proofs.FromDesign.Heads
import DesignCompiler.Proofs.FromDesign.RawTexts
import DesignCompiler.Proofs.Naming.CamelCase

/-! The elements of a component's tree, and the props at its root, are proper when the texts of the
design that are written as they stand are on one line. -/
namespace DesignCompiler.FromDesign
open Document Element Text

/-! ## Heads -/

section
variable {s : Surroundings} {a : Attributes} {c : Classification} {h : ElementHead}

lemma proper_withWarning (hh : h.Proper) {m : Remarks} {w : String}
    (hb : m.propBinding = h.remarks.propBinding) (hw : m.warnings = h.remarks.warnings ++ [w])
    (hr : IsRemark w) : ({ h with remarks := m } : ElementHead).Proper := by
  refine hh.withRemarks hb ?_
  rw [hw]
  exact List.forall_mem_append.mpr ⟨hh.warnings,List.forall_mem_singleton.mpr hr⟩

lemma proper_addHint (hh : h.Proper) {name hint : String} (hname : interactionHint name = some hint)
    (nodeId : String) : (addHint nodeId hint h).1.Proper :=
  proper_withWarning hh rfl rfl (isRemark_hintWarning hname)

lemma proper_addWarning (hh : h.Proper) {w : String} (hw : IsRemark w) : (addWarning w h).Proper :=
  proper_withWarning hh rfl rfl hw

lemma rawTexts_startHead (s : Surroundings) (c : Classification) (a : Attributes) :
    (startHead s c a).1.style.rawTexts = (styleOf a).1.rawTexts := by
  unfold startHead
  cases interactionHint a.name
  all_goals
    cases s.styles with
    | none => rfl
    | some styles => exact rawTexts_mapStyleColors _ _ _

lemma proper_startHead (ht : OneLine c.tag) (ha : AllOneLine (a.rawTexts c.kind)) :
    (startHead s c a).1.Proper := by
  obtain ⟨hstyle,hname⟩ := allOneLine_append.mp ha
  have hkind : c.kind = .icon ∨ c.kind = .componentInstance → OneLine a.name := by
    rintro (hk | hk) <;> rw [hk] at hname <;> exact (allOneLine_cons.mp hname).1
  have hlook : AllOneLine (startHead s c a).1.style.rawTexts := by
    rw [rawTexts_startHead]
    exact fun x hx => hstyle x (rawTexts_styleOf a hx)
  have hbase : ∀ look : Style, AllOneLine look.rawTexts →
      ({ ElementHead.bare a.id c.kind c.tag a.name with
        layout := layoutOf a
        style := look
        remarks := { Remarks.none with styleRefs := a.sharedStyles } } : ElementHead).Proper :=
    fun look hl => ⟨ht,hkind,hl,List.forall_mem_nil _,(fun _ hp => nomatch hp),
      (fun _ hi => nomatch hi)⟩
  unfold startHead at hlook ⊢
  dsimp only at hlook ⊢
  cases hhint : interactionHint a.name with
  | none =>
    rw [hhint] at hlook
    exact hbase _ hlook
  | some hint =>
    rw [hhint] at hlook
    exact proper_addHint (hbase _ hlook) hhint a.id

lemma proper_withContent (hs : AllOneLine (s.textProps.map (·.2))) (hh : h.Proper) :
    (withContent s a h).Proper := by
  refine ⟨hh.tag,hh.name,hh.style,hh.warnings,?_,hh.overrides⟩
  intro prop hp
  obtain ⟨k,-,hk⟩ := Option.bind_eq_some_iff.mp hp
  obtain ⟨e,he,rfl⟩ := Option.map_eq_some_iff.mp hk
  exact hs _ (List.mem_map_of_mem (List.mem_of_find?_eq_some he))

lemma proper_withComponent (hh : h.Proper) (ha : AllOneLine a.componentId.toList) :
    (withComponent s a h).1.Proper := by
  unfold withComponent
  cases hid : a.componentId with
  | none => exact proper_addWarning hh (by decide)
  | some id =>
    rw [hid] at ha
    have hid : OneLine id := (allOneLine_cons.mp ha).1
    have hinstance : ∀ i ∈ some (InstanceRef.mk id (overridesOf a)),
        AllOneLine (i.overrides.map (·.1)) := by
      rintro _ ⟨⟩
      exact allOneLine_overridesOf a
    have hi : ({ h with instanceOf := some ⟨id,overridesOf a⟩ } : ElementHead).Proper :=
      ⟨hh.tag,hh.name,hh.style,hh.warnings,hh.binding,hinstance⟩
    cases hr : s.registry.get? id with
    | none =>
      simp only [hr]
      exact proper_addWarning hi (((by decide : IsRemark "component ").append hid).append
        (by decide))
    | some entry =>
      simp only [hr]
      exact ⟨Naming.oneLine_componentIdentifier _,hh.name,hh.style,hh.warnings,hh.binding,
        hinstance⟩

lemma proper_withShownChildren (hh : h.Proper) (shown : List Child) :
    (withShownChildren a shown h).1.Proper := by
  have horigin : ({ h with
      layout := { h.layout with position := .relative }
      remarks := { h.remarks with hasAbsoluteChildren := true } } : ElementHead).Proper :=
    ⟨hh.tag,hh.name,hh.style,hh.warnings,hh.binding,hh.overrides⟩
  have hwarning : IsRemark noAutoLayoutWarning := by decide
  unfold withShownChildren
  dsimp only
  split_ifs
  · exact proper_addWarning horigin hwarning
  · exact proper_addWarning hh hwarning
  · exact horigin
  · exact hh

end

/-! ## Trees -/

section
variable {s : Surroundings}

theorem proper_assemble (hs : AllOneLine (s.textProps.map (·.2))) {c : Classification}
    (ht : OneLine c.tag) {a : Attributes} (ha : AllOneLine (a.rawTexts c.kind))
    (children : List Child) (built : Reported (List Element)) :
    (assemble s c a children built).1.head.Proper := by
  have hstart := proper_startHead (s := s) ht ha
  unfold assemble
  cases hk : c.kind
  case text => exact proper_withContent hs hstart
  case componentInstance =>
    rw [hk] at ha
    exact proper_withComponent hstart (allOneLine_cons.mp (allOneLine_append.mp ha).2).2
  case image | icon | divider => exact hstart
  case container | component =>
    cases hf : children.filter isShown with
    | nil => exact hstart
    | cons d ds => exact proper_withShownChildren hstart _

/-- The elements below the root of a tree are those of its children. -/
lemma forall_mem_walk_assemble {P : ElementHead → Prop} {c : Classification} {a : Attributes}
    {cs : List Child} {tag : String}
    (hcs : ∀ d ∈ cs, ∀ i, ∀ h ∈ (buildChild s a tag i d).1.walk, P h) :
    ∀ h ∈ (assemble s c a cs (buildChildren s a tag 0 cs)).1.children.flatMap walk, P h := by
  intro h hh
  obtain ⟨e,he,hh⟩ := List.mem_flatMap.mp hh
  rw [children_assemble_buildChildren] at he
  split at he
  · obtain ⟨d,hd,-,k,rfl⟩ := mem_buildChildren s a tag he
    exact hcs d hd k h hh
  · nomatch he

/-- Every element that is built for a slot is proper. -/
theorem proper_buildChild (hs : AllOneLine (s.textProps.map (·.2))) {d : Child}
    (hd : AllOneLine d.rawTexts) (parent : Attributes) (tag : String) (i : ℕ) :
    ∀ h ∈ (buildChild s parent tag i d).1.walk, h.Proper := by
  induction d generalizing parent tag i with
  | invalid bad =>
    have hreason : OneLine bad.reason := (allOneLine_cons.mp hd).1
    rw [buildChild_invalid]
    refine List.forall_mem_singleton.mpr (proper_addWarning ?_ ?_)
    · exact ⟨(by decide : OneLine "div"),by simp [ElementHead.bare],allOneLine_nil,
        List.forall_mem_nil _,(fun _ hp => nomatch hp),(fun _ hi => nomatch hi)⟩
    · exact (by decide : IsRemark "source node could not be parsed: ").append hreason
  | node a cs ih =>
    obtain ⟨ha,hcs⟩ := Child.allOneLine_rawTexts_node.mp hd
    rw [← kind_classify ⟨a,cs⟩ (some tag)] at ha
    rw [buildChild_node, walk_eq, children_place, List.forall_mem_cons]
    refine ⟨?_,forall_mem_walk_assemble fun d hd k => ih d hd (hcs d hd) a _ k⟩
    have htag := oneLine_of_mem_elementTags (tag_classify_mem ⟨a,cs⟩ (some tag))
    have hhead := proper_assemble hs htag ha cs
      (buildChildren s a (classify ⟨a,cs⟩ (some tag)).tag 0 cs)
    unfold place
    split
    · rw [head_mapHead]
      exact ⟨hhead.tag,hhead.name,hhead.style,hhead.warnings,hhead.binding,hhead.overrides⟩
    · exact hhead

lemma proper_buildAs (hs : AllOneLine (s.textProps.map (·.2))) {c : Classification}
    (ht : OneLine c.tag) {n : Node} (hn : AllOneLine (n.attrs.rawTexts c.kind))
    (hcs : ∀ d ∈ n.children, AllOneLine d.rawTexts) :
    ∀ h ∈ (buildAs s c n).1.walk, h.Proper := by
  rw [buildAs, walk_eq, List.forall_mem_cons]
  exact ⟨proper_assemble hs ht hn _ _,
    forall_mem_walk_assemble fun d hd i => proper_buildChild hs (hcs d hd) _ _ i⟩

/-- A new head on the same children. -/
lemma forall_mem_walk_mk {P : ElementHead → Prop} {e : Element} (he : ∀ h ∈ e.walk, P h)
    {root : ElementHead} (hr : P root) : ∀ h ∈ (Element.mk root e.children).walk, P h := by
  rw [walk_eq, List.forall_mem_cons] at he
  rw [walk_mk, List.forall_mem_cons]
  exact ⟨hr,he.2⟩

lemma proper_buildSet (hs : AllOneLine (s.textProps.map (·.2))) {set : Node}
    (hset : AllOneLine set.toChild.rawTexts) : ∀ h ∈ (buildSet s set).1.walk, h.Proper := by
  obtain ⟨hv,hcs⟩ := Child.allOneLine_rawTexts_node.mp
    (Child.allOneLine_rawTexts_of_mem_subtrees hset (toChild_defaultVariant_mem set))
  have hstyle : AllOneLine ((defaultVariant set).attrs.rawTexts .component) :=
    allOneLine_append.mpr ⟨(allOneLine_append.mp hv).1,allOneLine_nil⟩
  have htag := oneLine_of_mem_elementTags (tag_named_mem .component set.attrs.name)
  have hwalk := proper_buildAs hs htag hstyle hcs
  have hhead := hwalk _ (by rw [walk_eq]; exact List.mem_cons_self)
  have hkind : (buildAs s (named .component set.attrs.name) (defaultVariant set)).1.head.kind =
      .component := (headOf_assemble _ _ _ _ _).kind
  unfold buildSet
  dsimp only
  rw [← defaultVariant]
  generalize buildAs s (named .component set.attrs.name) (defaultVariant set) = built at *
  have hroot : ({ built.1.head with
      id := elementId set.attrs.id
      sourceId := set.attrs.id
      name := set.attrs.name
      props := setProps set
      remarks := { built.1.head.remarks with isVariantContainer := true } } : ElementHead).Proper :=
    ⟨hhead.tag,by simp [hkind],hhead.style,hhead.warnings,hhead.binding,hhead.overrides⟩
  split
  · next hint hhint =>
    refine forall_mem_walk_mk hwalk ?_
    split at hhint
    · contradiction
    · obtain ⟨value,-,hvalue⟩ := List.exists_of_findSome?_eq_some hhint
      exact proper_addHint hroot hvalue _
  · exact forall_mem_walk_mk hwalk hroot

lemma ignoresRepetition_proper : IgnoresRepetition ElementHead.Proper := by
  intro h repeating repetition
  refine propext ⟨fun hh => ?_,fun hh => ?_⟩
  · exact ⟨hh.tag,hh.name,hh.style,hh.warnings,hh.binding,hh.overrides⟩
  · exact ⟨hh.tag,hh.name,hh.style,hh.warnings,hh.binding,hh.overrides⟩

lemma allOneLine_textPropNames (defs : List (String × PropertyDefinition)) :
    AllOneLine ((textPropNames defs).map (·.2)) := by
  rw [textPropNames, List.map_map]
  exact List.forall_mem_map.mpr fun e _ => Naming.oneLine_propIdentifier e.1

/-- Every element of a component's tree is proper. -/
theorem proper_build (registry : ComponentRegistry) (styles : Option (List (String × StyleMeta)))
    {n : Node} (hn : AllOneLine n.toChild.rawTexts) :
    ∀ h ∈ (build registry styles n).1.walk, h.Proper := by
  have hs := allOneLine_textPropNames n.attrs.propertyDefinitions
  have hrepetition : ∀ e : Element, (∀ h ∈ e.walk, h.Proper) →
      ∀ h ∈ (markRepetitions (e.mapHead fun h =>
        { h with remarks := { h.remarks with isComponentRoot := true } })).walk, h.Proper := by
    intro e he
    have hroot : ∀ h ∈ (e.mapHead fun h =>
        { h with remarks := { h.remarks with isComponentRoot := true } }).walk, h.Proper := by
      rw [mapHead_eq]
      refine forall_mem_walk_mk he ?_
      have hhead := he e.head (by rw [walk_eq]; exact List.mem_cons_self)
      exact hhead.withRemarks rfl hhead.warnings
    rw [← List.forall_mem_map (f := ElementHead.Proper) (P := fun p => p)] at hroot ⊢
    rwa [ignoresRepetition_proper.map_walk_markRepetitions]
  unfold build
  dsimp only
  split
  · exact hrepetition _ (proper_buildSet hs hn)
  · obtain ⟨ha,hcs⟩ := Child.allOneLine_rawTexts_node.mp hn
    have hwalk := proper_buildAs (s := ⟨registry,styles,_⟩) hs
      (oneLine_of_mem_elementTags (tag_classify_mem n none)) ha hcs
    refine hrepetition _ ?_
    rw [mapHead_eq]
    refine forall_mem_walk_mk hwalk ?_
    have hhead := hwalk _ (by rw [walk_eq]; exact List.mem_cons_self)
    exact ⟨hhead.tag,hhead.name,hhead.style,hhead.warnings,hhead.binding,hhead.overrides⟩

end

/-! ## Props -/

/-- A prop whose name is a word, and whose default is a truth value if it is a boolean. -/
structure Worded (p : PropDef) : Prop where
  name : ∀ c ∈ p.name.toList, Naming.IsNameChar c
  truth : p.type = .boolean → ∀ v ∈ p.default, v = "true" ∨ v = "false"

lemma Worded.proper {p : PropDef} (h : Worded p) : p.Proper := by
  refine ⟨fun hline => absurd (h.name _ hline) (by decide),fun hk v hv => ?_⟩
  obtain rfl | rfl := h.truth hk v hv <;> decide

lemma worded_propOf (withVariants : Bool) (key : String) (d : PropertyDefinition) :
    ∀ p ∈ propOf withVariants (Naming.propIdentifier key) d, Worded p := by
  have hname := (Naming.isCamelName_propIdentifier key).isNameChar
  intro p hp
  unfold propOf at hp
  split at hp
  · cases hp
    exact ⟨hname,fun h => nomatch h⟩
  · cases hp
    refine ⟨hname,fun _ v hv => ?_⟩
    obtain ⟨_ | _,-,rfl⟩ := Option.map_eq_some_iff.mp hv
    · exact .inr rfl
    · exact .inl rfl
  · cases hp
    exact ⟨hname,fun h => nomatch h⟩
  · unfold PropDef.enumeration at hp
    split_ifs at hp <;> cases hp
    exact ⟨hname,fun h => nomatch h⟩

lemma worded_declaredProps (withVariants : Bool) (defs : List (String × PropertyDefinition)) :
    ∀ p ∈ declaredProps withVariants defs, Worded p := by
  intro p hp
  obtain ⟨key,d,-,hp⟩ := exists_of_mem_declaredProps hp
  exact worded_propOf _ key d p hp

/-- The default of a boolean that variants make is a truth value. -/
lemma truth_default_inferProp {name : String} {values : List String} {p : PropDef}
    (hp : inferProp name values = some p) (hk : p.type = .boolean) :
    ∀ v ∈ p.default, v = "true" ∨ v = "false" := by
  unfold inferProp at hp
  split_ifs at hp with htruth
  · cases hp
    intro v hv
    obtain ⟨w,hw,rfl⟩ := Option.map_eq_some_iff.mp hv
    exact (areTruthValues_iff.mp htruth).truths w (List.mem_of_head? hw)
  · cases hp
    contradiction
  · unfold PropDef.enumeration at hp
    split_ifs at hp
    cases hp
    contradiction

lemma worded_setProps (set : Node) : ∀ p ∈ setProps set, Worded p := by
  intro p hp
  obtain hp | ⟨hp,-⟩ := of_mem_merge hp
  · obtain ⟨q,hq,rfl⟩ := List.mem_map.mp hp
    obtain ⟨⟨key,values⟩,-,hinfer⟩ := List.mem_filterMap.mp hq
    have htruth : q.type = .boolean → ∀ v ∈ q.default, v = "true" ∨ v = "false" :=
      truth_default_inferProp hinfer
    exact ⟨(Naming.isCamelName_propIdentifier _).isNameChar,htruth⟩
  · exact worded_declaredProps false _ p hp

/-- The props of a component are worded, whatever its properties and its variants are. -/
theorem worded_props (registry : ComponentRegistry) (styles : Option (List (String × StyleMeta)))
    (n : Node) : ∀ p ∈ (build registry styles n).1.head.props, Worded p := by
  rw [props_build]
  unfold rootProps
  split
  · exact worded_setProps n
  · exact worded_declaredProps true _

end DesignCompiler.FromDesign
