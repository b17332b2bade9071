import DesignCompiler.Proofs.Markup.Sights

/-! The components to which markup refers: one for each instance that is shown, in the order of the
tree. -/
namespace DesignCompiler.Markup
open Styling Jsx

mutual

/-- The instances that the markup of an element shows, if their components are known. -/
def instances (r : ComponentRegistry) : Element → List ElementHead
  | .mk h es =>
    match h.kind with
    | .componentInstance => if refersToKnown r h then [h] else []
    | .text | .image | .icon | .divider => []
    | .container | .component =>
      instancesFrom r (if standsOnOneLine es then none else repetition? h) 0 es

/-- The instances that are shown below a container, whose children are numbered from `i` on. -/
def instancesFrom (r : ComponentRegistry) (rep : Option Repeat) (i : ℕ) :
    List Element → List ElementHead
  | [] => []
  | e :: es => (if isRepeated rep i then [] else instances r e) ++ instancesFrom r rep (i+1) es

end

/-- The tags of the components among parts of markup. -/
def componentTags (parts : List Part) : List String :=
  parts.filterMap fun
    | .component tag => some tag
    | _ => none

lemma mem_componentTags {tag : String} {ps : List Part} :
    tag ∈ componentTags ps ↔ .component tag ∈ ps := by
  rw [componentTags, List.mem_filterMap]
  constructor
  · rintro ⟨part,hpart,he⟩
    cases part <;> cases he
    exact hpart
  · exact fun h => ⟨_,h,rfl⟩

/-- The instance that something shown is, if its component is known. -/
def Shown.instance? (r : ComponentRegistry) : Shown → Option ElementHead
  | element h => if h.kind = .componentInstance ∧ refersToKnown r h then some h else none
  | template _ => none

section
variable {r : ComponentRegistry} {e : Element} {h : ElementHead}

lemma instancesFrom_eq_filterMap_shownFrom {es : List Element}
    (hes : ∀ e ∈ es, instances r e = (shown e).filterMap (Shown.instance? r))
    (rep : Option Repeat) (i : ℕ) :
    instancesFrom r rep i es = (shownFrom rep i es).filterMap (Shown.instance? r) := by
  induction es generalizing i with
  | nil => rfl
  | cons e es ih =>
    obtain ⟨he,hes⟩ := List.forall_mem_cons.mp hes
    rw [instancesFrom, shownFrom, List.filterMap_append, ih hes, he]
    split_ifs <;> rfl

/-- The instances are found among all that is shown. -/
theorem instances_eq_filterMap_shown (r : ComponentRegistry) (e : Element) :
    instances r e = (shown e).filterMap (Shown.instance? r) := by
  induction e with
  | mk h es ih =>
    rw [instances, shown, List.filterMap_cons, Shown.instance?]
    cases h.kind
    case componentInstance =>
      cases refersToKnown r h <;> rfl
    case container | component => exact instancesFrom_eq_filterMap_shownFrom ih _ 0
    all_goals rfl

lemma Shown.instance?_eq_some {s : Shown} (hs : s.instance? r = some h) :
    s = .element h ∧ h.kind = .componentInstance ∧ refersToKnown r h = true := by
  cases s with
  | template => nomatch hs
  | element g =>
    obtain ⟨hg,hs⟩ := Option.ite_none_right_eq_some.mp hs
    obtain rfl := Option.some.inj hs
    exact ⟨rfl,hg⟩

/-- Whatever instance is shown stands in the tree, and its component is known. -/
theorem mem_walk_of_mem_instances (hh : h ∈ instances r e) :
    h ∈ e.walk ∧ h.kind = .componentInstance ∧ refersToKnown r h = true := by
  rw [instances_eq_filterMap_shown, List.mem_filterMap] at hh
  obtain ⟨s,hs,hh⟩ := hh
  obtain ⟨rfl,hknown⟩ := Shown.instance?_eq_some hh
  exact ⟨head_mem_walk_of_mem_shown hs,hknown⟩

/-- The tag of a component that is shown. -/
def Sight.tag? : Sight → Option String
  | component tag _ => some tag
  | icon _ | template _ => none

lemma tag?_sight? (st : Setting) (s : Shown) :
    (s.sight? st).bind Sight.tag? = (s.instance? st.registry).map (·.tag) := by
  cases s with
  | template => rfl
  | element h =>
    rw [Shown.sight?, Shown.instance?, refersToKnown, ← Option.isSome_filter]
    cases h.kind
    case icon => cases iconImport? st.options h <;> rfl
    case componentInstance =>
      cases h.instanceOf.filter fun i => st.registry.contains i.componentId <;> rfl
    all_goals rfl

/-- The components in the markup of an element are those of the instances that are shown, in
order. -/
theorem componentTags_markup (st : Setting) (b : Building) (keyed : Bool) (e : Element) :
    componentTags (markup st b keyed e).2.parts = (instances st.registry e).map (·.tag) := by
  rw [componentTags, filterMap_parts (g := Sight.tag?) (fun j => by cases j <;> rfl),
    sights_markup st e, List.filterMap_filterMap, instances_eq_filterMap_shown,
    List.map_filterMap]
  exact List.filterMap_congr fun s _ => tag?_sight? st s

/-- The markup of an element holds each instance that is shown, with the values of its node. -/
theorem exists_component_markup (st : Setting) (b : Building) (keyed : Bool) {i : InstanceRef}
    (hh : h ∈ instances st.registry e) (hi : h.instanceOf = some i) :
    ∃ keyed', .component h.tag i.overrides keyed' ∈ (markup st b keyed e).2.subtrees := by
  rw [instances_eq_filterMap_shown, List.mem_filterMap] at hh
  obtain ⟨s,hs,hh⟩ := hh
  obtain ⟨rfl,hkind,hknown⟩ := Shown.instance?_eq_some hh
  have hsight : (Shown.element h).sight? st = some (.component h.tag i.overrides) := by
    rw [refersToKnown, hi, Option.any_some] at hknown
    simp [Shown.sight?, hkind, hi, hknown]
  have hmem : .component h.tag i.overrides ∈ (markup st b keyed e).2.sights := by
    rw [sights_markup st e]
    exact List.mem_filterMap.mpr ⟨_,hs,hsight⟩
  obtain ⟨j,hj,hjs⟩ := List.mem_filterMap.mp hmem
  cases j <;> cases hjs
  exact ⟨_,hj⟩

end

end DesignCompiler.Markup
