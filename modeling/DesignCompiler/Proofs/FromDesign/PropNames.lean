import DesignCompiler.Proofs.FromDesign.Heads
import DesignCompiler.Proofs.FromDesign.Overrides

/-! The names of a component's props. Declared properties never give one name to two props, and
those of a component set keep clear of the variants' names. The variants' own keys are told apart
before they become identifiers, so that two of them can give one name to two props. -/
namespace DesignCompiler.FromDesign
open Document Naming Json.Decoder

/-! ## Declared properties -/

lemma name_propOf {withVariants : Bool} {name : String} {d : PropertyDefinition} {q : PropDef}
    (hq : propOf withVariants name d = some q) : q.name = name := by
  unfold propOf PropDef.enumeration at hq
  split at hq
  case h_4 =>
    split_ifs at hq
    cases hq
    rfl
  all_goals
    cases hq
    rfl

lemma nodup_addProp {withVariants : Bool} {props : List PropDef}
    {entry : String × PropertyDefinition} (h : (props.map (·.name)).Nodup) :
    ((addProp withVariants props entry).map (·.name)).Nodup := by
  unfold addProp
  dsimp only
  split
  · exact h
  · next hnew =>
    cases hq : propOf withVariants (propIdentifier entry.1) entry.2 with
    | none => simpa using h
    | some q =>
      rw [Option.toList_some, nodup_map_concat, name_propOf hq]
      exact ⟨by simpa using hnew,h⟩

/-- Declared properties give every name to one prop at most. -/
theorem nodup_declaredProps (withVariants : Bool) (defs : List (String × PropertyDefinition)) :
    ((declaredProps withVariants defs).map (·.name)).Nodup := by
  rw [declaredProps]
  suffices hfold : ∀ props : List PropDef, (props.map (·.name)).Nodup →
      ((defs.foldl (addProp withVariants) props).map (·.name)).Nodup from
    hfold [] List.nodup_nil
  induction defs with
  | nil => exact fun props h => h
  | cons e defs ih => exact fun props h => ih _ (nodup_addProp h)

/-- Props that are merged into others by their names do not repeat a name. -/
lemma nodup_merge_iff (props more : List PropDef) :
    ((more.foldl (fun acc p => if acc.any (·.name == p.name) then acc else acc ++ [p])
      props).map (·.name)).Nodup ↔ (props.map (·.name)).Nodup := by
  induction more generalizing props with
  | nil => rfl
  | cons p more ih =>
    rw [List.foldl_cons, ih]
    split
    · rfl
    · next hnew =>
      rw [nodup_map_concat]
      exact and_iff_right (by simpa using hnew)

/-! ## Keys of variants -/

/-- The keys for which the variants of a component set have values. -/
def variantKeys (set : Node) : List String :=
  set.nodes.flatMap fun v => (variantValues v.attrs).map (·.1)

/-- No key is without values. -/
def Filled (table : List (String × List String)) : Prop := ∀ e ∈ table, e.2 ≠ []

/-- The values are collected under each key once, and under no other key. -/
lemma collectValues_spec (cases : List VariantCase) :
    ((collectValues cases).map (·.1)).Nodup ∧ Filled (collectValues cases) ∧
      ∀ k, k ∈ (collectValues cases).map (·.1) ↔ k ∈ cases.flatten.map (·.1) := by
  rw [map_fst_collectValues]
  refine ⟨nodup_keysOf _,?_,fun k => List.mem_eraseDups⟩
  rw [collectValues_eq, Filled, List.forall_mem_map]
  exact fun key hkey hnil => valuesOf_eq_nil_iff.mp hnil hkey

/-- The props of variants are named by the keys. -/
lemma names_propsOfCases (cases : List VariantCase) :
    (propsOfCases cases).map (·.name) = (collectValues cases).map (·.1) := by
  rw [map_fst_collectValues, ← List.forall₂_eq_eq_eq, List.forall₂_map_left_iff]
  exact (forall₂_propsOfCases cases).flip.imp fun _ _ h => h.1

/-- The props of a component have different names exactly if it is no component set or no two keys
of its variants have one identifier. -/
theorem prop_names_nodup_iff (registry : ComponentRegistry)
    (styles : Option (List (String × StyleMeta))) (n : Node) :
    ((build registry styles n).1.head.props.map (·.name)).Nodup ↔
      (n.attrs.kind = .componentSet → ∀ k ∈ variantKeys n, ∀ k' ∈ variantKeys n,
        propIdentifier k = propIdentifier k' → k = k') := by
  rw [props_build, rootProps]
  by_cases hk : n.attrs.kind = .componentSet
  · obtain ⟨hnodup,-,hmem⟩ := collectValues_spec (n.nodes.map fun v => variantValues v.attrs)
    have hkeys : ∀ k, k ∈ (collectValues (n.nodes.map fun v => variantValues v.attrs)).map (·.1) ↔
        k ∈ variantKeys n := fun k => by
      rw [hmem, variantKeys, List.map_flatten, List.map_map, List.flatMap_def]
      rfl
    have hnames : ((propsOfSet n).map fun p =>
        { p with name := propIdentifier p.name }).map (·.name) =
          ((collectValues (n.nodes.map fun v => variantValues v.attrs)).map (·.1)).map
            propIdentifier := by
      rw [← names_propsOfCases, List.map_map, List.map_map]
      rfl
    rw [if_pos hk, setProps, nodup_merge_iff, hnames, List.nodup_map_iff_inj_on hnodup]
    simp only [hkeys, hk, true_implies]
  · rw [if_neg hk]
    exact iff_of_true (nodup_declaredProps _ _) fun h => absurd h hk

/-- A chip has a key with a capital and the same key without it. Both give the prop `size`. -/
theorem variant_keys_with_one_identifier :
    let variant := Attributes.bare "1" "Size=Small, size=Tiny" .component
    let chip : Node := ⟨.bare "0" "Chip" .componentSet,[.node variant []]⟩
    (build .empty none chip).1.head.props =
        [.string "size" (some "Small"),.string "size" (some "Tiny")] ∧
      ¬ ((build .empty none chip).1.head.props.map (·.name)).Nodup := by
  decide +kernel

end DesignCompiler.FromDesign
