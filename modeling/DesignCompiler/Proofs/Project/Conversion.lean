import DesignCompiler.Project.Conversion
import DesignCompiler.Proofs.Document.Tree
import DesignCompiler.Proofs.Styling.Readable

/-! What a conversion comes to: it succeeds when no lookup for a component fails, and then it has
the files of each component and those that all components share. -/
namespace DesignCompiler.Project
open Document FromDesign Styling Output

section
variable {o : ConvertOptions} {d : Document} {out : ConversionOutput}

lemma exists_convert (h : ∀ t ∈ nameTargets [] (targetNodes o d).1,
    (convertComponent o d (registryOf d) t).tally.unreadable = false) :
    ∃ out, convert o d = .ok out := by
  have htally : (Tally.sum (((nameTargets [] (targetNodes o d).1).map
      (convertComponent o d (registryOf d))).map (·.tally))).unreadable = false := by
    simp only [Tally.unreadable_sum, List.any_map, List.any_eq_false, Function.comp_apply]
    exact fun t ht => ne_true_of_eq_false (h t ht)
  unfold convert
  dsimp only
  rw [htally]
  exact ⟨_,rfl⟩

lemma exists_of_isOk (h : (convert o d).isOk = true) : ∃ out, convert o d = .ok out := by
  cases hc : convert o d with
  | error e =>
    rw [hc] at h
    contradiction
  | ok out => exact ⟨out,rfl⟩

/-- Only a lookup fails. -/
lemma error_of_convert {e : ConversionError} (hc : convert o d = .error e) :
    e = .unreadableToken := by
  unfold convert at hc
  dsimp only at hc
  split at hc
  · cases hc
    rfl
  · contradiction

lemma components_of_convert (hc : convert o d = .ok out) :
    out.components = (nameTargets [] (targetNodes o d).1).map (·.name) := by
  unfold convert at hc
  dsimp only at hc
  split at hc
  · contradiction
  · cases hc
    rfl

lemma files_of_convert (hc : convert o d = .ok out) :
    out.files = ((nameTargets [] (targetNodes o d).1).flatMap fun t =>
        (convertComponent o d (registryOf d) t).files) ++
      if out.components.isEmpty then []
      else indexFile o out.components :: (themeFile o o.tokenTable).toList := by
  unfold convert at hc
  dsimp only at hc
  split at hc
  · contradiction
  · cases hc
    rw [List.flatMap_map]

/-- A file of a conversion is one of a component, the index, or the theme. -/
lemma mem_files_of_convert (hc : convert o d = .ok out) {f : GeneratedFile} (hf : f ∈ out.files) :
    (∃ t ∈ nameTargets [] (targetNodes o d).1,
        f ∈ (convertComponent o d (registryOf d) t).files) ∨
      f = indexFile o out.components ∨ f ∈ themeFile o o.tokenTable := by
  rw [files_of_convert hc, List.mem_append, List.mem_flatMap] at hf
  refine hf.imp_right fun hf => ?_
  split at hf
  · contradiction
  · rwa [List.mem_cons, Option.mem_toList] at hf

/-- A conversion that succeeds has the files of each of its components. -/
lemma files_subset_of_convert {t : Target} (hc : convert o d = .ok out)
    (ht : t ∈ nameTargets [] (targetNodes o d).1) :
    (convertComponent o d (registryOf d) t).files ⊆ out.files := by
  intro f hf
  rw [files_of_convert hc]
  exact List.mem_append_left _ (List.mem_flatMap.mpr ⟨t,ht,hf⟩)

end

section
variable {o : ConvertOptions} {f : GeneratedFile}

lemma kind_typesFile {name : String} {props : List PropDef} {m : DesignCompiler.Markup}
    (hf : typesFile o name props m = some f) : f.kind = .types := by
  unfold typesFile at hf
  split at hf
  · cases hf
    rfl
  · contradiction

lemma kind_themeFile {table : Tokens.TokenTable} (hf : themeFile o table = some f) :
    f.kind = .theme := by
  unfold themeFile at hf
  split at hf
  · split at hf <;> cases hf <;> rfl
  · contradiction

end

/-! ## Targets -/

/-- The nodes of a document that options ask for: those with given identities, or the components
that are shown. -/
def resolvedNodes (o : ConvertOptions) (d : Document) : List Node :=
  if o.targets.isEmpty then shownComponents d.root.toChild
  else o.targets.filterMap d.root.find?

lemma findTargets_fst (d : Document) (ids : List String) :
    (findTargets d ids).1 = ids.filterMap d.root.find? := by
  induction ids with
  | nil => rfl
  | cons id ids ih =>
    rw [findTargets, List.filterMap_cons, ← ih]
    cases d.root.find? id <;> rfl

lemma targetNodes_fst (o : ConvertOptions) (d : Document) :
    (targetNodes o d).1 = resolvedNodes o d := by
  unfold targetNodes resolvedNodes
  split
  · rfl
  · exact findTargets_fst d _

lemma shownComponentsIn_eq_flatMap (cs : List Child) :
    shownComponentsIn cs = cs.flatMap shownComponents := by
  induction cs with
  | nil => rfl
  | cons c cs ih => rw [shownComponentsIn, ih, List.flatMap_cons]

lemma mem_subtrees_of_mem_shownComponents {c : Child} {n : Node} (hn : n ∈ shownComponents c) :
    n.toChild ∈ c.subtrees := by
  induction c with
  | invalid bad => nomatch hn
  | node a cs ih =>
    rw [shownComponents] at hn
    rw [Child.subtrees_node, List.mem_cons, List.mem_flatMap]
    split_ifs at hn
    · nomatch hn
    · rw [List.mem_singleton.mp hn]
      exact .inl rfl
    · rw [shownComponentsIn_eq_flatMap, List.mem_flatMap] at hn
      obtain ⟨c,hc,hn⟩ := hn
      exact .inr ⟨c,hc,ih c hc hn⟩

/-- The nodes that are converted stand in the document. -/
theorem mem_subtrees_of_mem_targetNodes {o : ConvertOptions} {d : Document} {n : Node}
    (hn : n ∈ (targetNodes o d).1) : n.toChild ∈ d.root.toChild.subtrees := by
  rw [targetNodes_fst, resolvedNodes] at hn
  split at hn
  · exact mem_subtrees_of_mem_shownComponents hn
  · obtain ⟨id,-,hn⟩ := List.mem_filterMap.mp hn
    exact Child.mem_subtrees_of_find? hn

lemma node_nameTargets (used : List String) (nodes : List Node) :
    (nameTargets used nodes).map (·.node) = nodes := by
  induction nodes generalizing used with
  | nil => rfl
  | cons n ns ih =>
    rw [nameTargets]
    exact congrArg (n :: ·) (ih _)

lemma mem_subtrees_of_mem_nameTargets {o : ConvertOptions} {d : Document} {t : Target}
    (ht : t ∈ nameTargets [] (targetNodes o d).1) : t.node.toChild ∈ d.root.toChild.subtrees := by
  have hmem := List.mem_map_of_mem (f := Target.node) ht
  rw [node_nameTargets] at hmem
  exact mem_subtrees_of_mem_targetNodes hmem

end DesignCompiler.Project
