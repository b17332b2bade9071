import DesignCompiler.Proofs.FromDesign.Heads

/-! The props that supply texts are among the props of the component. -/
namespace DesignCompiler.FromDesign
open Document Element

/-- The prop that supplies an element's text, if there is one, is among those that are known while
the tree is built. -/
def SuppliedBy (s : Surroundings) (h : ElementHead) : Prop :=
  ∀ p, h.remarks.propBinding = some p → p ∈ s.textProps.map (·.2)

section
variable {s : Surroundings}

lemma suppliedBy_of_none {h : ElementHead} (hn : h.remarks.propBinding = none) :
    SuppliedBy s h := by
  intro p hp
  rw [hn] at hp
  contradiction

lemma propBinding_startHead (c : Classification) (a : Attributes) :
    (startHead s c a).1.remarks.propBinding = none := by
  unfold startHead
  cases interactionHint a.name <;> rfl

lemma propBinding_withComponent (a : Attributes) (h : ElementHead) :
    (withComponent s a h).1.remarks.propBinding = h.remarks.propBinding := by
  unfold withComponent
  cases a.componentId with
  | none => rfl
  | some id => cases hr : s.registry.get? id <;> simp only [hr, addWarning]

lemma propBinding_withShownChildren (a : Attributes) (shown : List Child) (h : ElementHead) :
    (withShownChildren a shown h).1.remarks.propBinding = h.remarks.propBinding := by
  unfold withShownChildren
  dsimp only
  split_ifs <;> rfl

lemma suppliedBy_withContent (a : Attributes) (h : ElementHead) :
    SuppliedBy s (withContent s a h) := by
  intro p hp
  obtain ⟨k,-,hk⟩ := Option.bind_eq_some_iff.mp hp
  obtain ⟨e,he,rfl⟩ := Option.map_eq_some_iff.mp hk
  exact List.mem_map_of_mem (List.mem_of_find?_eq_some he)

theorem suppliedBy_assemble (c : Classification) (a : Attributes) (children : List Child)
    (built : Reported (List Element)) : SuppliedBy s (assemble s c a children built).1.head := by
  have hs := propBinding_startHead (s := s) c a
  unfold assemble
  cases hk : c.kind
  case text => exact suppliedBy_withContent a _
  case componentInstance =>
    exact suppliedBy_of_none ((propBinding_withComponent a _).trans hs)
  case image | icon | divider => exact suppliedBy_of_none hs
  case container | component =>
    cases hf : children.filter isShown with
    | nil => exact suppliedBy_of_none hs
    | cons d ds => exact suppliedBy_of_none ((propBinding_withShownChildren a _ _).trans hs)

lemma suppliedBy_buildChild (parent : Attributes) (tag : String) (i : ℕ) (c : Child) :
    SuppliedBy s (buildChild s parent tag i c).1.head := by
  cases c with
  | invalid bad =>
    rw [buildChild_invalid]
    exact suppliedBy_of_none rfl
  | node a cs =>
    intro p hp
    rw [buildChild_node, (place_cases parent a _).2.2.2] at hp
    exact suppliedBy_assemble _ a cs _ p hp

end

/-! ## Props -/

lemma subset_addProp (withVariants : Bool) (props : List PropDef)
    (entry : String × PropertyDefinition) : props ⊆ addProp withVariants props entry := by
  unfold addProp
  dsimp only
  split
  · exact List.Subset.refl _
  · exact List.subset_append_left _ _

lemma exists_mem_addProp (withVariants : Bool) (props : List PropDef)
    {entry : String × PropertyDefinition} (hk : entry.2.kind = .text) :
    ∃ q ∈ addProp withVariants props entry, q.name = Naming.propIdentifier entry.1 := by
  unfold addProp
  dsimp only
  split
  · next h => simpa using h
  · refine ⟨.string (Naming.propIdentifier entry.1) entry.2.default.string?,?_,rfl⟩
    simp [propOf, hk]

lemma subset_foldl_addProp (withVariants : Bool) (defs : List (String × PropertyDefinition))
    (props : List PropDef) : props ⊆ defs.foldl (addProp withVariants) props := by
  induction defs generalizing props with
  | nil => exact List.Subset.refl _
  | cons e defs ih => exact List.Subset.trans (subset_addProp withVariants props e) (ih _)

/-- Every text property has a prop of its name. -/
lemma exists_mem_declaredProps (withVariants : Bool) {defs : List (String × PropertyDefinition)}
    {p : String} (hp : p ∈ (textPropNames defs).map (·.2)) :
    ∃ q ∈ declaredProps withVariants defs, q.name = p := by
  obtain ⟨key,hkey,rfl⟩ : ∃ e, (e ∈ defs ∧ e.2.kind = .text) ∧ Naming.propIdentifier e.1 = p := by
    simpa [textPropNames] using hp
  obtain ⟨before,after,rfl⟩ := List.append_of_mem hkey.1
  rw [declaredProps, List.foldl_append, List.foldl_cons]
  obtain ⟨q,hq,hname⟩ :=
    exists_mem_addProp withVariants (before.foldl (addProp withVariants) []) hkey.2
  exact ⟨q,subset_foldl_addProp withVariants after _ hq,hname⟩

/-- Merging props keeps a prop of every name. -/
lemma exists_mem_merge (props more : List PropDef) {q : PropDef} (hq : q ∈ props ∨ q ∈ more) :
    ∃ r ∈ more.foldl
      (fun acc p => if acc.any (·.name == p.name) then acc else acc ++ [p]) props,
      r.name = q.name := by
  induction more generalizing props q with
  | nil => exact ⟨q,hq.resolve_right List.not_mem_nil,rfl⟩
  | cons p more ih =>
    rw [List.foldl_cons]
    split
    · next hany =>
      obtain hq | hq := hq
      · exact ih props (.inl hq)
      · obtain rfl | hq := List.mem_cons.mp hq
        · obtain ⟨r,hr,hname⟩ := List.any_eq_true.mp hany
          rw [← beq_iff_eq.mp hname]
          exact ih props (.inl hr)
        · exact ih props (.inr hq)
    · refine ih _ ?_
      rw [List.mem_append, List.mem_singleton]
      rw [List.mem_cons] at hq
      tauto

theorem exists_mem_rootProps (n : Node) {p : String}
    (hp : p ∈ (textPropNames n.attrs.propertyDefinitions).map (·.2)) :
    ∃ q ∈ rootProps n, q.name = p := by
  unfold rootProps
  split
  · obtain ⟨q,hq,rfl⟩ := exists_mem_declaredProps false hp
    exact exists_mem_merge _ _ (.inr hq)
  · exact exists_mem_declaredProps true hp

/-- Each prop that supplies a text of a component is a prop of its root. -/
theorem text_props_declared (registry : ComponentRegistry)
    (styles : Option (List (String × StyleMeta))) (n : Node) {h : ElementHead} {p : String}
    (hh : h ∈ (build registry styles n).1.walk) (hp : h.remarks.propBinding = some p) :
    ∃ q ∈ (build registry styles n).1.head.props, q.name = p := by
  have hsupplied : SuppliedBy (surroundingsOf registry styles n) h := by
    refine forall_mem_walk_build registry styles n (fun _ _ _ => rfl) ?_ ?_ h hh
    · intro p hp
      rw [(rootOf_build registry styles n).binding] at hp
      exact suppliedBy_assemble _ _ _ _ p hp
    · exact fun parent tag i c _ => suppliedBy_buildChild parent tag i c
  rw [props_build]
  exact exists_mem_rootProps n (hsupplied p hp)

end DesignCompiler.FromDesign
