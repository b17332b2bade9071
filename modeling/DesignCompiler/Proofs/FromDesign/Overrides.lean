import DesignCompiler.Proofs.FromDesign.Instances
import DesignCompiler.Proofs.FromDesign.Variants

/-! The values that instances give to props. They come from the properties of an instance's node,
and a value is a truth value exactly if its property is a boolean. The props of a component have
types by their own rules: a set's variants can make a boolean of values that are texts. -/
namespace DesignCompiler.FromDesign
open Document Element

/-! ## Instances and their nodes -/

/-- An instance takes its component and its values from a node in one of some slots. -/
def InstanceFrom (slots : List Child) (h : ElementHead) : Prop :=
  ∀ i ∈ h.instanceOf, ∃ a cs, .node a cs ∈ slots ∧ a.id = h.sourceId ∧
    a.componentId = some i.componentId ∧ i.overrides = overridesOf a

section
variable {s : Surroundings}

lemma instanceOf_withShownChildren (a : Attributes) (shown : List Child) (h : ElementHead) :
    (withShownChildren a shown h).1.instanceOf = h.instanceOf := by
  unfold withShownChildren
  dsimp only
  split_ifs <;> rfl

lemma instanceOf_withComponent (a : Attributes) {h : ElementHead} (hn : h.instanceOf = none) :
    (withComponent s a h).1.instanceOf = a.componentId.map fun id => ⟨id,overridesOf a⟩ := by
  unfold withComponent
  cases a.componentId with
  | none => exact hn
  | some id => cases hr : s.registry.get? id <;> simp only [hr, addWarning, Option.map_some]

/-- Only an instance shows a component, with the values of its own properties. -/
theorem instanceOf_assemble (c : Classification) (a : Attributes) (children : List Child)
    (built : Reported (List Element)) : (assemble s c a children built).1.head.instanceOf =
      if c.kind = .componentInstance then a.componentId.map fun id => ⟨id,overridesOf a⟩
      else none := by
  have hs := instanceOf_startHead (s := s) c a
  unfold assemble
  cases c.kind
  case text | image | icon | divider => exact hs
  case componentInstance => exact instanceOf_withComponent a hs
  case container | component =>
    cases hf : children.filter isShown with
    | nil => exact hs
    | cons d ds => exact (instanceOf_withShownChildren a _ _).trans hs

lemma instanceFrom_assemble {slots : List Child} (c : Classification) {a : Attributes}
    {children cs : List Child} (built : Reported (List Element)) (ha : .node a cs ∈ slots) :
    InstanceFrom slots (assemble s c a children built).1.head := by
  intro i hi
  rw [instanceOf_assemble, Option.mem_def, Option.ite_none_right_eq_some] at hi
  obtain ⟨id,hid,rfl⟩ := Option.map_eq_some_iff.mp hi.2
  exact ⟨a,cs,ha,(headOf_assemble s c a children built).sourceId.symm,hid,rfl⟩

lemma instanceFrom_buildChild {slots : List Child} (parent : Attributes) (tag : String) (i : ℕ)
    {c : Child} (hc : c ∈ slots) : InstanceFrom slots (buildChild s parent tag i c).1.head := by
  cases c with
  | invalid bad =>
    rw [buildChild_invalid]
    intro _ hi
    contradiction
  | node a cs =>
    rw [buildChild_node, IgnoresPosition.place (v := InstanceFrom slots) (fun _ _ => rfl)]
    exact instanceFrom_assemble _ _ hc

end

/-- Every instance in the tree of a component is from a node of the component. -/
theorem instanceFrom_of_mem_walk (registry : ComponentRegistry)
    (styles : Option (List (String × StyleMeta))) (n : Node) {h : ElementHead}
    (hh : h ∈ (build registry styles n).1.walk) : InstanceFrom n.toChild.subtrees h := by
  refine forall_mem_walk_build registry styles n (fun _ _ _ => rfl) ?_ ?_ h hh
  · have hview : (build registry styles n).1.head.instanceOf = (buildAs
        (surroundingsOf registry styles n) (rootClass n) (shownNode n)).1.head.instanceOf :=
      congrArg (·.2.2) (instanceView_build registry styles n)
    intro i hi
    rw [hview] at hi
    by_cases hk : n.attrs.kind = .componentSet
    · have hc : rootClass n = named .component n.attrs.name := if_pos hk
      rw [buildAs, instanceOf_assemble, hc] at hi
      cases hi
    · have hn : shownNode n = n := if_neg hk
      rw [hn, buildAs] at hi
      obtain ⟨a,cs,ha,hid,hshown⟩ :=
        instanceFrom_assemble _ _ (Child.mem_subtrees_self n.toChild) i hi
      refine ⟨a,cs,ha,?_,hshown⟩
      rw [(rootOf_build registry styles n).sourceId, hid]
      exact (headOf_assemble _ _ _ _ _).sourceId
  · exact fun parent tag i c hc => instanceFrom_buildChild parent tag i hc

/-! ## Values -/

/-- A table holds no more than the pairs from which it is made. -/
lemma tableOf_subset {α : Type} (pairs : List (String × α)) : tableOf pairs ⊆ pairs := fun _ he =>
  List.mem_reverse.mp (List.mem_of_find?_eq_some (find?_of_mem_tableOf he))

/-- Every value that an instance gives is that of one of its properties. -/
theorem exists_of_mem_overridesOf {a : Attributes} {name : String} {v : OverrideValue}
    (hv : (name,v) ∈ overridesOf a) : ∃ key p, (key,p) ∈ a.componentProperties ∧
      Naming.propIdentifier key = name ∧ overrideOf p = some v := by
  obtain ⟨⟨key,p⟩,hmem,he⟩ := List.mem_filterMap.mp (tableOf_subset _ hv)
  obtain ⟨v',hv',he⟩ := Option.map_eq_some_iff.mp he
  obtain ⟨rfl,rfl⟩ := Prod.mk.inj he
  exact ⟨key,p,hmem,rfl,hv'⟩

/-- Whether a value has the type of a prop. Nothing is asked of a value for a node. -/
def Fits : PropType → OverrideValue → Prop
  | .boolean, .bool _ | .string, .text _ | .enum, .text _ | .node, _ => True
  | .boolean, .text _ | .string, .bool _ | .enum, .bool _ => False

/-- A value is a truth value or a text by the kind of its property. -/
lemma overrideOf_cases {p : PropertyValue} {v : OverrideValue} (hv : overrideOf p = some v) :
    (p.kind = .boolean ∧ ∃ b, v = .bool b) ∨
      ((p.kind = .text ∨ p.kind = .variant) ∧ ∃ s, v = .text s) := by
  unfold overrideOf at hv
  cases hk : p.kind <;> rw [hk] at hv
  · obtain ⟨b,-,rfl⟩ := Option.map_eq_some_iff.mp hv
    exact .inl ⟨rfl,b,rfl⟩
  · obtain ⟨s,-,rfl⟩ := Option.map_eq_some_iff.mp hv
    exact .inr ⟨.inl rfl,s,rfl⟩
  · contradiction
  · obtain ⟨s,-,rfl⟩ := Option.map_eq_some_iff.mp hv
    exact .inr ⟨.inr rfl,s,rfl⟩

lemma fits_iff {type : PropType} {p : PropertyValue} {v : OverrideValue}
    (hv : overrideOf p = some v) (ht : type ≠ .node) :
    Fits type v ↔ (type = .boolean ↔ p.kind = .boolean) := by
  obtain ⟨hk,b,rfl⟩ | ⟨hk | hk,s,rfl⟩ := overrideOf_cases hv <;>
    cases type <;> simp_all [Fits]

/-! ## Props -/

/-- The props that the variants of a component set make. -/
def variantProps (n : Node) : List PropDef :=
  if n.attrs.kind = .componentSet then
    (propsOfSet n).map fun p => { p with name := Naming.propIdentifier p.name }
  else []

/-- The kind of property as which a component has a prop: the variants of a set make it, or it is
declared and the variants leave it its name. -/
inductive DeclaredAs (n : Node) (q : PropDef) : PropertyKind → Prop
  | variant : q ∈ variantProps n → DeclaredAs n q .variant
  | property {key : String} {d : PropertyDefinition} : (key,d) ∈ n.attrs.propertyDefinitions →
      propOf (n.attrs.kind ≠ .componentSet) (Naming.propIdentifier key) d = some q →
      (∀ p ∈ variantProps n, p.name ≠ q.name) → DeclaredAs n q d.kind

lemma exists_of_mem_declaredProps {withVariants : Bool} {defs : List (String × PropertyDefinition)}
    {q : PropDef} (hq : q ∈ declaredProps withVariants defs) : ∃ key d, (key,d) ∈ defs ∧
      propOf withVariants (Naming.propIdentifier key) d = some q := by
  suffices hfold : ∀ props : List PropDef, q ∈ defs.foldl (addProp withVariants) props →
      q ∈ props ∨ ∃ key d, (key,d) ∈ defs ∧
        propOf withVariants (Naming.propIdentifier key) d = some q from
    (hfold [] hq).resolve_left List.not_mem_nil
  clear hq
  induction defs with
  | nil => exact fun props hq => .inl hq
  | cons e defs ih =>
    intro props hq
    obtain hq | ⟨key,d,hd,hq⟩ := ih _ hq
    · unfold addProp at hq
      dsimp only at hq
      split at hq
      · exact .inl hq
      · refine (List.mem_append.mp hq).imp_right fun hq => ?_
        exact ⟨e.1,e.2,List.mem_cons_self,Option.mem_toList.mp hq⟩
    · exact .inr ⟨key,d,List.mem_cons_of_mem _ hd,hq⟩

/-- Of merged props, one that is not from the first list has a name that none in this list has. -/
lemma of_mem_merge {props more : List PropDef} {q : PropDef} (hq : q ∈ more.foldl
      (fun acc p => if acc.any (·.name == p.name) then acc else acc ++ [p]) props) :
    q ∈ props ∨ q ∈ more ∧ ∀ p ∈ props, p.name ≠ q.name := by
  induction more generalizing props with
  | nil => exact .inl hq
  | cons r more ih =>
    rw [List.foldl_cons] at hq
    split at hq
    · exact (ih hq).imp_right fun h => ⟨List.mem_cons_of_mem r h.1,h.2⟩
    · next hany =>
      obtain hq | ⟨hq,hnames⟩ := ih hq
      · obtain hq | hq := List.mem_append.mp hq
        · exact .inl hq
        · obtain rfl := List.mem_singleton.mp hq
          exact .inr ⟨List.mem_cons_self,by simpa using hany⟩
      · exact .inr ⟨List.mem_cons_of_mem r hq,fun p hp => hnames p (List.mem_append_left _ hp)⟩

/-- Every prop of a component is declared as a property of some kind. -/
theorem exists_declaredAs {n : Node} {q : PropDef} (hq : q ∈ rootProps n) :
    ∃ kind, DeclaredAs n q kind := by
  unfold rootProps at hq
  split at hq
  · next hk =>
    have hv : variantProps n = (propsOfSet n).map fun p =>
      { p with name := Naming.propIdentifier p.name } := if_pos hk
    obtain hq | ⟨hq,hnames⟩ := of_mem_merge hq
    · exact ⟨_,.variant (hv ▸ hq)⟩
    · obtain ⟨key,d,hd,hq⟩ := exists_of_mem_declaredProps hq
      exact ⟨_,.property hd (by simpa [hk] using hq) (hv ▸ hnames)⟩
  · next hk =>
    have hv : variantProps n = [] := if_neg hk
    obtain ⟨key,d,hd,hq⟩ := exists_of_mem_declaredProps hq
    exact ⟨_,.property hd (by simpa [hk] using hq) (hv ▸ List.forall_mem_nil _)⟩

lemma type_of_mem_variantProps {n : Node} {q : PropDef} (hq : q ∈ variantProps n) :
    q.type ≠ .node := by
  unfold variantProps at hq
  split at hq
  · obtain ⟨p,hp,rfl⟩ := List.mem_map.mp hq
    obtain ⟨⟨key,values⟩,-,hp⟩ := List.mem_filterMap.mp hp
    unfold inferProp PropDef.enumeration at hp
    dsimp only at hp ⊢
    split_ifs at hp <;> cases hp <;> simp [PropDef.boolean, PropDef.string]
  · cases hq

lemma type_of_propOf {withVariants : Bool} {name : String} {d : PropertyDefinition} {q : PropDef}
    (hq : propOf withVariants name d = some q) :
    (q.type = .boolean ↔ d.kind = .boolean) ∧ (q.type = .node ↔ d.kind = .instanceSwap) := by
  unfold propOf PropDef.enumeration at hq
  cases hk : d.kind <;> rw [hk] at hq
  case variant =>
    dsimp only at hq
    split_ifs at hq
    cases hq
    simp
  all_goals
    cases hq
    simp [PropDef.boolean, PropDef.string, PropDef.node]

/-- A value whose property has the kind as which the prop is declared has the prop's type, unless
the prop is a boolean that variants make. -/
theorem fits_iff_of_declaredAs {n : Node} {q : PropDef} {p : PropertyValue} {v : OverrideValue}
    (hv : overrideOf p = some v) (hq : DeclaredAs n q p.kind) :
    Fits q.type v ↔ ¬ (q.type = .boolean ∧ p.kind = .variant) := by
  have hvalued : p.kind ≠ .instanceSwap := by
    obtain ⟨h,-⟩ | ⟨h | h,-⟩ := overrideOf_cases hv <;> simp [h]
  generalize hk : p.kind = kind at hq
  cases hq with
  | variant hq =>
    rw [fits_iff hv (type_of_mem_variantProps hq), hk]
    simp
  | @property key d hd hq hnames =>
    obtain ⟨hboolean,hnode⟩ := type_of_propOf hq
    rw [fits_iff hv (mt hnode.mp (hk ▸ hvalued)), hboolean, hk]
    simp +contextual

end DesignCompiler.FromDesign
