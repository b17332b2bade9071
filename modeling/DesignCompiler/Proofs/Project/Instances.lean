import DesignCompiler.Proofs.FromDesign.Instances
import DesignCompiler.Proofs.FromDesign.Registry
import DesignCompiler.Proofs.Markup.Instances
import DesignCompiler.Proofs.Naming.Fresh
import DesignCompiler.Proofs.Project.References

/-! The names of instances and of components. An instance is written with the name of its component
in the design; the component is generated under that name if no component before it has taken it. -/
namespace DesignCompiler

namespace Naming

/-- A name that is not in use is fresh as it stands. -/
lemma fresh_eq_iff {used : List String} {wanted : String} :
    fresh used wanted = wanted ↔ wanted ∉ used := by
  constructor
  · intro h
    have hnew := fresh_not_mem used wanted
    rwa [h] at hnew
  · intro h
    simp [fresh, candidates, h]

end Naming

namespace Project
open Document FromDesign Styling Markup Output

/-- The entry of a component that is in no component set. -/
def ownEntry (n : Node) : ComponentEntry := ⟨n.attrs.id,n.attrs.name,none⟩

lemma displayName_ownEntry (n : Node) : (ownEntry n).displayName = n.attrs.name := rfl

/-- A component that is shown is known under its own name. -/
lemma ownEntry_mem_entriesIn {c : Child} {n : Node} {parent : Option Attributes}
    (hn : n ∈ shownComponents c) (hk : n.attrs.kind = .component)
    (hp : parent.filter (·.kind == .componentSet) = none) : ownEntry n ∈ entriesIn parent c := by
  induction c generalizing parent with
  | invalid bad => cases hn
  | node a cs ih =>
    rw [shownComponents] at hn
    rw [entriesIn, List.mem_append]
    split_ifs at hn with hv hc
    · cases hn
    · obtain rfl := List.mem_singleton.mp hn
      refine .inl ?_
      rw [entryOf, if_pos (beq_iff_eq.mpr hk), hp]
      exact List.mem_singleton_self _
    · rw [shownComponentsIn_eq_flatMap, List.mem_flatMap] at hn
      obtain ⟨c,hmem,hn⟩ := hn
      rw [entriesInAll_eq_flatMap, List.mem_flatMap]
      refine .inr ⟨c,hmem,ih c hmem hn ?_⟩
      rw [Bool.or_eq_true, not_or] at hc
      exact Option.filter_some_neg (eq_false_of_ne_true hc.2)

lemma nameTargets_cons {used : List String} {n : Node} {ns : List Node} {label name : String}
    (h : Naming.fresh used (Naming.componentIdentifier label) = name)
    (hn : n.attrs.name = label) :
    nameTargets used (n :: ns) = ⟨n,name⟩ :: nameTargets (used ++ [name]) ns := by
  rw [nameTargets, hn, h]

lemma name_of_nameTargets {used : List String} {nodes : List Node} {before after : List Target}
    {t : Target} (h : nameTargets used nodes = before ++ t :: after) :
    t.name = Naming.fresh (used ++ before.map (·.name))
      (Naming.componentIdentifier t.node.attrs.name) := by
  induction before generalizing used nodes with
  | nil =>
    cases nodes with
    | nil => contradiction
    | cons n ns =>
      obtain ⟨rfl,-⟩ := List.cons.inj h
      simp
  | cons b before ih =>
    cases nodes with
    | nil => contradiction
    | cons n ns =>
      rw [nameTargets, List.cons_append] at h
      obtain ⟨rfl,hrest⟩ := List.cons.inj h
      rw [ih hrest, List.append_assoc]
      rfl

section
variable {o : ConvertOptions} {d : Document} {t t' : Target} {before after : List Target}

/-- Without targets of its own, a conversion knows each component that it generates under the name
that this has in the design. -/
lemma get?_target (ho : o.targets = [])
    (hids : ((entriesIn none d.root.toChild).map (·.id)).Nodup)
    (ht : t ∈ nameTargets [] (targetNodes o d).1) (hk : t.node.attrs.kind = .component) :
    (registryOf d).get? t.node.attrs.id = some (ownEntry t.node) := by
  have hnode : t.node ∈ shownComponents d.root.toChild := by
    have hmem := List.mem_map_of_mem (f := Target.node) ht
    rwa [node_nameTargets, targetNodes_fst, resolvedNodes, ho] at hmem
  exact get?_registryOf (e := ownEntry t.node) hids (ownEntry_mem_entriesIn hnode hk rfl)

/-- An instance of a generated component has the name of the component in the design. -/
lemma tag_of_mem_instances (ho : o.targets = [])
    (hids : ((entriesIn none d.root.toChild).map (·.id)).Nodup)
    (ht : t' ∈ nameTargets [] (targetNodes o d).1) (hk : t'.node.attrs.kind = .component)
    {h : ElementHead} {overrides : List (String × OverrideValue)}
    (hh : h ∈ instances (registryOf d) (t.tree d))
    (hi : h.instanceOf = some ⟨t'.node.attrs.id,overrides⟩) :
    h.tag = Naming.componentIdentifier t'.node.attrs.name := by
  obtain ⟨hwalk,hkind,-⟩ := mem_walk_of_mem_instances hh
  have hnamed : NamedByComponent (registryOf d) h :=
    namedByComponent_of_mem_walk (registryOf d) (some d.styles) t.node hwalk
  rw [hnamed hkind _ hi _ (get?_target ho hids ht hk), displayName_ownEntry]

lemma componentTags_built (o : ConvertOptions) (d : Document) (t : Target) :
    componentTags (t.built o d).2.root.parts =
      (instances (registryOf d) (t.tree d)).map (·.tag) :=
  componentTags_markup (Target.setting o d) _ false (t.tree d)

/-- The line that imports a component from the file beside it. -/
def componentImport (tag : String) : String :=
  "import \x7b " ++ tag ++ " \x7d from './" ++ tag ++ "';"

/-- In the file of a component, the components in the markup are its instances in their order, and
each has the name of the component itself or of an import. An instance of a component that is
generated has the name under which that is generated if no component generated before it has the
name that it has in the design, and in no other case. -/
theorem instance_names_target_iff {out : ConversionOutput} (hc : convert o d = .ok out)
    (ho : o.targets = []) (hids : ((entriesIn none d.root.toChild).map (·.id)).Nodup)
    (ht : t ∈ nameTargets [] (targetNodes o d).1)
    (ht' : nameTargets [] (targetNodes o d).1 = before ++ t' :: after)
    (hk : t'.node.attrs.kind = .component)
    {h : ElementHead} {overrides : List (String × OverrideValue)}
    (hh : h ∈ instances (registryOf d) (t.tree d))
    (hi : h.instanceOf = some ⟨t'.node.attrs.id,overrides⟩) :
    ∃ f ∈ out.files, f.path = o.componentPath (t.name ++ "." ++ o.componentExt) ∧
      f.content = (t.preamble o d).fileText o (t.built o d).2 ∧
      componentTags (t.built o d).2.root.parts =
        (instances (registryOf d) (t.tree d)).map (·.tag) ∧
      (h.tag = t.name ∨ componentImport h.tag ∈ (t.preamble o d).imports) ∧
      (h.tag = t'.name ↔
        Naming.componentIdentifier t'.node.attrs.name ∉ before.map (·.name)) := by
  have htag := tag_of_mem_instances ho hids (ht' ▸ List.mem_append_right before List.mem_cons_self)
    hk hh hi
  have hname := name_of_nameTargets ht'
  have hpart : .component h.tag ∈ (t.built o d).2.root.parts := by
    rw [← mem_componentTags, componentTags_built]
    exact List.mem_map_of_mem hh
  refine ⟨componentFile o t.name (t.tree d).head.props (t.built o d).2 markupDepth
    (t.styleLines o d),files_subset_of_convert hc ht List.mem_cons_self,rfl,
    content_componentFile o _ (t.built o d).2 _,componentTags_built o d t,?_,?_⟩
  · have hbound : Bound o (t.scope o d out.files) (.component h.tag) := bound_component hpart
    generalize h.tag = tag at hbound
    cases hbound with
    | own => exact .inl rfl
    | sibling himport => exact .inr himport
  · rw [htag, hname, List.nil_append, eq_comm]
    exact Naming.fresh_eq_iff

end

/-- The board of a page, which shows an instance of another component. -/
def boardTarget (name : String) : Target :=
  ⟨⟨.bare "3" "Board" .component,
    [.node { Attributes.bare "4" name .componentInstance with componentId := some "2" } []]⟩,
    "Board"⟩

/-- A page with two components and a board that shows an instance of the second. -/
def boardPage (name : String) : Document :=
  .ofRoot ⟨.bare "0" "Page" .frame,[.node (.bare "1" "Card" .component) [],
    .node (.bare "2" name .component) [],(boardTarget name).node.toChild]⟩

/-- The instance of a panel beside a card is written with the name of the panel. -/
theorem instance_names_target_iff_panel :
    let d := boardPage "Panel"
    let o := ConvertOptions.standard
    let board := boardTarget "Panel"
    ∃ out, convert o d = .ok out ∧ out.components = ["Card","Panel","Board"] ∧
      (∃ f ∈ out.files, f.path = "components/Board.tsx" ∧
        f.content = (board.preamble o d).fileText o (board.built o d).2) ∧
      componentTags (board.built o d).2.root.parts = ["Panel"] ∧
      componentImport "Panel" ∈ (board.preamble o d).imports := by
  intro d o board
  let card : Target := ⟨⟨.bare "1" "Card" .component,[]⟩,"Card"⟩
  let panel : Target := ⟨⟨.bare "2" "Panel" .component,[]⟩,"Panel"⟩
  have hcard : Naming.fresh [] (Naming.componentIdentifier "Card") = "Card" := by decide +kernel
  have hpanel : Naming.fresh ["Card"] (Naming.componentIdentifier "Panel") = "Panel" := by
    decide +kernel
  have hboard : Naming.fresh ["Card","Panel"] (Naming.componentIdentifier "Board") = "Board" := by
    decide +kernel
  have htargets : nameTargets [] (targetNodes o d).1 = [card] ++ panel :: [board] := by
    change nameTargets [] [card.node,panel.node,board.node] = _
    rw [nameTargets_cons hcard (n := card.node) rfl, List.nil_append,
      nameTargets_cons hpanel (n := panel.node) rfl, List.cons_append, List.nil_append,
      nameTargets_cons hboard (n := board.node) rfl]
    rfl
  have hinstances : (instances (registryOf d) (board.tree d)).map (fun h => (h.tag,h.instanceOf)) =
      [("Panel",some ⟨"2",[]⟩)] := by decide +kernel
  have hids : ((entriesIn none d.root.toChild).map (·.id)).Nodup := by decide +kernel
  have hok : (convert o d).isOk = true := by decide +kernel
  have hpath : o.componentPath "Board.tsx" = "components/Board.tsx" := by decide +kernel
  obtain ⟨h,hh,he⟩ := List.mem_map.mp (hinstances ▸ List.mem_singleton_self _)
  obtain ⟨htag,hi⟩ := Prod.mk.inj he
  cases hc : convert o d with
  | error e =>
    rw [hc] at hok
    contradiction
  | ok out =>
    have hboardmem : board ∈ nameTargets [] (targetNodes o d).1 := by
      rw [htargets]
      simp
    obtain ⟨f,hf,hfile,hcontent,hcomponents,hbound,-⟩ :=
      instance_names_target_iff hc rfl hids hboardmem htargets rfl hh hi
    refine ⟨out,rfl,?_,⟨f,hf,hfile.trans hpath,hcontent⟩,?_,?_⟩
    · rw [components_of_convert hc, htargets]
      rfl
    · have htags := congrArg (List.map Prod.fst) hinstances
      rw [List.map_map] at htags
      exact hcomponents.trans htags
    · rw [htag] at hbound
      exact hbound.resolve_left (show "Panel" ≠ "Board" by decide)

/-- The instance of a second card is written with the name of the first one, which is imported. -/
theorem instance_names_other_component :
    let d := boardPage "Card"
    let o := ConvertOptions.standard
    let board := boardTarget "Card"
    (convert o d).isOk = true ∧ ((entriesIn none d.root.toChild).map (·.id)).Nodup ∧
      (nameTargets [] (targetNodes o d).1).map (fun t => (t.node.attrs.id,t.name)) =
        [("1","Card"),("2","Card2"),("3","Board")] ∧
      (instances (registryOf d) (board.tree d)).map (fun h => (h.tag,h.instanceOf)) =
        [("Card",some ⟨"2",[]⟩)] ∧
      componentTags (board.built o d).2.root.parts = ["Card"] ∧
      componentImport "Card" ∈ (board.preamble o d).imports ∧
      componentImport "Card2" ∉ (board.preamble o d).imports := by
  decide +kernel

end Project

end DesignCompiler
