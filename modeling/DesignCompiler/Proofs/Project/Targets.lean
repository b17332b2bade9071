import DesignCompiler.Proofs.Document.Sites
import DesignCompiler.Proofs.Project.Exports

/-! The targets of a run: which nodes are converted when none are asked for, how their components
are named, and what the project exports. -/
namespace DesignCompiler.Project
open Document Naming Output Text

/-! ## Components that are shown -/

/-- Whether a node is a component or a component set. -/
def isComponent (a : Attributes) : Bool := a.kind == .component || a.kind == .componentSet

/-- Whether components below a node are shown. -/
def isPassed (a : Attributes) : Bool := a.visible && !isComponent a

/-- Whether a component is shown at a site. -/
def showsComponent (p : Site) : Bool :=
  p.node.attrs.visible && isComponent p.node.attrs && p.above.all isPassed

lemma showsComponent_iff {p : Site} : showsComponent p = true ↔
    p.node.attrs.visible = true ∧ isComponent p.node.attrs = true ∧
      ∀ a ∈ p.above, a.visible = true ∧ isComponent a = false := by
  simp only [showsComponent, isPassed, Bool.and_eq_true, List.all_eq_true, Bool.not_eq_true',
    and_assoc]

section
variable {path : List ℕ} {above : List Attributes}

/-- Below a node that is not passed no component is shown. -/
lemma filter_sitesIn_of_not_isPassed {a : Attributes} (ha : a ∈ above)
    (hp : isPassed a = false) (k : ℕ) (cs : List Child) :
    (Child.sitesIn path above k cs).filter showsComponent = [] := by
  rw [List.filter_eq_nil_iff]
  intro p hmem hshown
  obtain ⟨i,c,-,hmem⟩ := Child.mem_sitesIn.mp hmem
  have habove := (Child.prefix_of_mem_sites hmem).2.subset ha
  rw [showsComponent, Bool.and_eq_true, List.all_eq_true] at hshown
  rw [hshown.2 a habove] at hp
  contradiction

lemma shownComponentsIn_eq {cs : List Child} (k : ℕ) (h : ∀ c ∈ cs, ∀ path,
      shownComponents c = ((c.sites path above).filter showsComponent).map (·.node)) :
    shownComponentsIn cs =
      ((Child.sitesIn path above k cs).filter showsComponent).map (·.node) := by
  induction cs generalizing k with
  | nil => rfl
  | cons c cs ih =>
    obtain ⟨hc,hcs⟩ := List.forall_mem_cons.mp h
    rw [shownComponentsIn, Child.sitesIn, List.filter_append, List.map_append, hc, ih _ hcs]

/-- The components that a tree shows are the nodes at the sites that show one, in order. -/
theorem shownComponents_eq (c : Child) (path : List ℕ) {above : List Attributes}
    (habove : above.all isPassed = true) :
    shownComponents c = ((c.sites path above).filter showsComponent).map (·.node) := by
  induction c generalizing path above with
  | invalid bad => rfl
  | node a cs ih =>
    have hmem : a ∈ above ++ [a] := List.mem_append_right _ (List.mem_singleton_self a)
    have hself : showsComponent ⟨path,above,⟨a,cs⟩⟩ = (a.visible && isComponent a) := by
      rw [showsComponent, habove, Bool.and_true]
    rw [shownComponents, Child.sites, List.filter_cons, hself]
    cases hv : a.visible with
    | false =>
      have hp : isPassed a = false := by rw [isPassed, hv, Bool.false_and]
      rw [filter_sitesIn_of_not_isPassed hmem hp]
      rfl
    | true =>
      rw [Bool.true_and]
      change (if isComponent a then _ else _) = _
      cases hk : isComponent a with
      | true =>
        have hp : isPassed a = false := by rw [isPassed, hk, Bool.not_true, Bool.and_false]
        rw [filter_sitesIn_of_not_isPassed hmem hp]
        rfl
      | false =>
        have hp : isPassed a = true := by rw [isPassed, hv, hk]; rfl
        refine shownComponentsIn_eq 0 fun c hc path => ih c hc path ?_
        rw [List.all_append, habove, List.all_cons, hp]
        rfl

/-- The components of a document that are shown stand at the sites of its tree where a component is
shown, each once and in the order of the tree. -/
theorem exists_sites_shownComponents (root : Node) : ∃ ps : List Site,
    shownComponents root.toChild = ps.map (·.node) ∧ (ps.map (·.path)).Pairwise (· < ·) ∧
      ∀ p, p ∈ ps ↔ p.InTree root ∧ p.node.attrs.visible = true ∧
        isComponent p.node.attrs = true ∧
        ∀ a ∈ p.above, a.visible = true ∧ isComponent a = false := by
  refine ⟨(root.toChild.sites [] []).filter showsComponent,shownComponents_eq _ [] rfl,?_,?_⟩
  · exact (Child.pairwise_sites _ _ _).sublist (List.filter_sublist.map _)
  · intro p
    rw [List.mem_filter, Child.mem_sites, showsComponent_iff]
    simp [Node.toChild, Child.node?, Site.InTree, Site.ofRoot]

end

/-! ## Targets, names and exports -/

section
variable {o : ConvertOptions} {d : Document} {out : ConversionOutput}

/-- Without targets of its own a run converts the components that are shown: those that are visible,
as all nodes above them are, and that lie in no other component, each once and in the order of the
tree. Whatever the targets, the components have different names, each made from the name of its node
and followed, if that is in use, by the least number that makes it new. The project exports them in
their order, each from a file of the run. -/
theorem targets_and_exports (hc : convert o d = .ok out) :
    let targets := nameTargets [] (targetNodes o d).1
    (o.targets = [] → ∃ ps : List Site, targets.map (·.node) = ps.map (·.node) ∧
      (ps.map (·.path)).Pairwise (· < ·) ∧
      ∀ p, p ∈ ps ↔ p.InTree d.root ∧ p.node.attrs.visible = true ∧
        isComponent p.node.attrs = true ∧
        ∀ a ∈ p.above, a.visible = true ∧ isComponent a = false) ∧
    (out.components = targets.map (·.name) ∧ out.components.Nodup ∧
      ∀ before t after, targets = before ++ t :: after →
        IsLeastUnused (before.map (·.name)) (componentIdentifier t.node.attrs.name) t.name) ∧
    (out.files.filter (·.kind == .component)).map (·.path) =
      out.components.map (fun name => o.componentPath (name ++ "." ++ o.componentExt)) ∧
    (out.files.filter (·.kind == .index)).length = (if out.components = [] then 0 else 1) ∧
    ∀ f ∈ out.files, f.kind = .index →
      f.path = o.componentPath ("index." ++ o.moduleExt) ∧
      (∃ body, f.content = o.header ++ "\n" ++ body ∧
        exportsOf body = out.components.flatMap (componentExports o)) ∧
      ((∀ s ∈ o.timestamp, OneLine s) →
        exportsOf f.content = out.components.flatMap (componentExports o)) ∧
      ∀ e ∈ out.components.flatMap (componentExports o), ∃ g ∈ out.files, e.IsFrom o g := by
  intro targets
  refine ⟨fun ho => ?_,⟨components_of_convert hc,?_,fun before t after ht => ?_⟩,
    filter_component_of_convert hc,?_,fun f hf hk => ?_⟩
  · obtain ⟨ps,hps,hsorted,hall⟩ := exists_sites_shownComponents d.root
    refine ⟨ps,?_,hsorted,hall⟩
    rw [node_nameTargets, targetNodes_fst, resolvedNodes, ho, ← hps]
    rfl
  · rw [components_of_convert hc]
    exact (nodup_nameTargets [] _).1
  · rw [name_of_nameTargets ht, List.nil_append]
    exact isLeastUnused_fresh _ _
  · rw [filter_index_of_convert hc]
    cases out.components <;> rfl
  · obtain ⟨hpath,hbody,hcontent⟩ := exports_of_index hc hf hk
    exact ⟨hpath,hbody,hcontent,fun e he => exists_file_of_export hc he⟩

end

/-- A page with cards: one in a hidden frame, one in a frame, with another one inside, and two more.
-/
def cardPage : Document :=
  .ofRoot ⟨.bare "0" "Page" .canvas,
    [.node { Attributes.bare "1" "Drafts" .frame with visible := false }
      [.node (.bare "2" "Card" .component) []],
    .node (.bare "3" "Cards" .frame)
      [.node (.bare "4" "Card" .component) [.node (.bare "5" "Card" .component) []],
      .node (.bare "6" "Card" .componentSet) []],
    .node (.bare "7" "Card2" .component) []]⟩

/-- Of the cards on a page three are converted. The name of the last one is in use already. -/
theorem targets_and_exports_cards :
    let o := ConvertOptions.standard
    let targets := nameTargets [] (targetNodes o cardPage).1
    ∃ out, convert o cardPage = .ok out ∧ targets.map (·.node.attrs.id) = ["4","6","7"] ∧
      (∃ ps : List Site, targets.map (·.node) = ps.map (·.node) ∧
        ∀ p ∈ ps, p.InTree cardPage.root ∧ ∀ a ∈ p.above, a.visible = true) ∧
      out.components = ["Card","Card2","Card22"] ∧ out.components.Nodup ∧
      ∃ f ∈ out.files, f.path = "components/index.ts" ∧
        ((exportsOf f.content).filter (!·.isType)).map (fun e => (e.name,e.source)) =
          [("Card","./Card"),("Card2","./Card2"),("Card22","./Card22")] ∧
        ∀ e ∈ exportsOf f.content, ∃ g ∈ out.files, e.IsFrom o g := by
  intro o targets
  obtain ⟨out,hc⟩ : ∃ out, convert o cardPage = .ok out := exists_of_isOk (by decide +kernel)
  obtain ⟨hsites,⟨hnames,hnodup,-⟩,-,hone,hindex⟩ := targets_and_exports hc
  obtain ⟨ps,hps,-,hall⟩ := hsites rfl
  have hids : targets.map (·.node.attrs.id) = ["4","6","7"] := by decide +kernel
  have hcards : out.components = ["Card","Card2","Card22"] := hnames.trans (by decide +kernel)
  have hpath : o.componentPath ("index." ++ o.moduleExt) = "components/index.ts" := by
    decide +kernel
  rw [hcards, if_neg (List.cons_ne_nil _ _)] at hone
  obtain ⟨f,hf⟩ := List.length_eq_one_iff.mp hone
  obtain ⟨hf,hk⟩ := List.mem_filter.mp (hf ▸ List.mem_singleton_self f)
  obtain ⟨hfile,-,hcontent,hfrom⟩ := hindex f hf (beq_iff_eq.mp hk)
  have hexports := hcontent fun s hs => nomatch hs
  refine ⟨out,hc,hids,⟨ps,hps,fun p hp => ?_⟩,hcards,hnodup,f,hf,hfile.trans hpath,?_,?_⟩
  · obtain ⟨htree,-,-,habove⟩ := (hall p).mp hp
    exact ⟨htree,fun a ha => (habove a ha).1⟩
  · rw [hexports, hcards]
    decide +kernel
  · rw [hexports]
    exact hfrom

end DesignCompiler.Project
