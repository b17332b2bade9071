import DesignCompiler.Proofs.Project.ModuleNames
import DesignCompiler.Proofs.Project.Timestamp
import DesignCompiler.Proofs.UserBlocks.Plain

/-! The file that exports all components, as a reader of scripts finds it. Beside each component it
exports the type of its props, and both come from files of the same run. -/
namespace DesignCompiler.Project
open Document Naming Output Text

/-- What a line exports: a name, as a value or as a type only, and where it is from. -/
structure Export where
  isType : Bool
  name : String
  source : String
  deriving DecidableEq, Repr

/-- The export of a line, if it is one. -/
def lineExport? (line : String) : Option Export :=
  (afterPrefix? "export ".toList line.toList).bind fun rest =>
    let names := skip "type " rest
    (afterPrefix? "\x7b ".toList names).bind fun named =>
      let name := leadingName named
      (afterPrefix? (name ++ " \x7d from '").toList named).bind fun quoted =>
        (cutAt '\'' quoted).map fun (source, _) =>
          ⟨"type ".toList.isPrefixOf rest,name,String.ofList source⟩

/-- The exports of a script, line by line. -/
def exportsOf (script : String) : List Export := (lines script).filterMap lineExport?

/-- The line of an export. -/
def Export.line (e : Export) : String :=
  "export " ++ (if e.isType then "type " else "") ++ "\x7b " ++ e.name ++ " \x7d from '" ++
    e.source ++ "';"

/-- An export of an identifier from a place without quotes. -/
structure Export.IsPlain (e : Export) : Prop where
  name : ∀ c ∈ e.name.toList, IsNameChar c
  source : '\'' ∉ e.source.toList ∧ OneLine e.source

section
variable {e : Export}

/-- An export is read from its line. -/
theorem lineExport?_eq (he : e.IsPlain) : lineExport? e.line = some e := by
  obtain ⟨isType,name,source⟩ := e
  obtain ⟨hn,hs,-⟩ := he
  -- what stands behind the word for types, if there is one
  generalize htail : "\x7b ".toList ++ (name.toList ++
    ' ' :: ("\x7d from '".toList ++ (source.toList ++ '\'' :: [';']))) = tail
  have hline : (Export.line ⟨isType,name,source⟩).toList = "export ".toList ++
      ((if isType then "type ".toList else []) ++ tail) := by
    rw [← htail]
    cases isType <;> simp [Export.line, String.toList_append]
  have hskip : skip "type " ((if isType then "type ".toList else []) ++ tail) = tail := by
    cases isType with
    | true => exact skip_append "type " tail
    | false =>
      rw [← htail]
      exact skip_of_ne rfl (by decide)
  have htype : "type ".toList.isPrefixOf ((if isType then "type ".toList else []) ++ tail) =
      isType := by
    cases isType with
    | true => exact List.isPrefixOf_iff_prefix.mpr (List.prefix_append _ _)
    | false =>
      rw [← htail]
      rfl
  have hquoted : name.toList ++ ' ' :: ("\x7d from '".toList ++ (source.toList ++ '\'' :: [';'])) =
      (name ++ " \x7d from '").toList ++ (source.toList ++ '\'' :: [';']) := by
    rw [String.toList_append, List.append_assoc]
    rfl
  rw [lineExport?, hline, UserBlocks.afterPrefix?_eq_some.mpr rfl, Option.bind_some]
  dsimp only
  rw [hskip, htype, ← htail, UserBlocks.afterPrefix?_eq_some.mpr rfl, Option.bind_some,
    leadingName_append hn (by decide), hquoted, UserBlocks.afterPrefix?_eq_some.mpr rfl,
    Option.bind_some, cutAt_append hs, Option.map_some, String.ofList_toList]

lemma oneLine_line (he : e.IsPlain) : OneLine e.line := by
  have hname : OneLine e.name := fun h => absurd (he.name _ h) (by decide)
  have htype : OneLine (if e.isType then "type " else "") := by split <;> decide
  simp only [Export.line, oneLine_append, hname, htype, he.source.2]
  decide

/-- Exports that stand one a line are read in their order. -/
theorem exportsOf_join {es : List Export} (h : ∀ e ∈ es, e.IsPlain) :
    exportsOf (String.join (es.map fun e => e.line ++ "\n")) = es := by
  induction es with
  | nil => decide +kernel
  | cons e es ih =>
    obtain ⟨he,hes⟩ := List.forall_mem_cons.mp h
    rw [List.map_cons, String.join_cons, exportsOf, lines_append_lineFeed,
      lines_of_oneLine (oneLine_line he), List.filterMap_append, List.filterMap_cons,
      lineExport?_eq he, List.filterMap_nil, List.singleton_append]
    exact congrArg (e :: ·) (ih hes)

end

/-- What the project exports of a component. -/
def componentExports (o : ConvertOptions) (name : String) : List Export :=
  ⟨false,name,"./" ++ name⟩ ::
    if o.typescript then [⟨true,name ++ "Props","./" ++ name ++ ".types"⟩] else []

section
variable {o : ConvertOptions} {name : String}

lemma isPlain_of_mem_componentExports (hn : IsComponentName name) {e : Export}
    (he : e ∈ componentExports o name) : e.IsPlain := by
  have hquote : '\'' ∉ name.toList := hn.notMem (by decide) (by decide)
  have hone : '\n' ∉ name.toList := hn.notMem (by decide) (by decide)
  rw [componentExports, List.mem_cons] at he
  obtain rfl | he := he
  · refine ⟨hn.isNameChar,?_,?_⟩ <;> simp [OneLine, String.toList_append, hquote, hone]
  · split at he
    · obtain rfl := List.mem_singleton.mp he
      refine ⟨(isComponentName_propsName hn).isNameChar,?_,?_⟩ <;>
        simp [OneLine, String.toList_append, hquote, hone]
    · contradiction

lemma exportText_eq (o : ConvertOptions) (name : String) : exportText o name =
    String.join ((componentExports o name).map fun e => e.line ++ "\n") := by
  rw [← String.toList_inj, exportText, componentExports]
  split <;> simp [Export.line, String.toList_append]

/-- The file of exports has those of all components, in order. -/
theorem exportsOf_exportTexts {names : List String} (h : ∀ n ∈ names, IsComponentName n) :
    exportsOf (String.join (names.map (exportText o))) = names.flatMap (componentExports o) := by
  have hjoin : String.join (names.map (exportText o)) = String.join
      ((names.flatMap (componentExports o)).map fun e => e.line ++ "\n") := by
    clear h
    induction names with
    | nil => rfl
    | cons n ns ih =>
      rw [List.map_cons, String.join_cons, exportText_eq, ih, List.flatMap_cons, List.map_append,
        String.join_append]
  rw [hjoin]
  refine exportsOf_join fun e he => ?_
  obtain ⟨n,hn,he⟩ := List.mem_flatMap.mp he
  exact isPlain_of_mem_componentExports (h n hn) he

end

/-! ## The file of exports -/

lemma content_indexFile (o : ConvertOptions) (names : List String) :
    (indexFile o names).content =
      o.header ++ "\n" ++ String.join (names.map (exportText o)) := by
  simp [indexFile, fillIn, Template.index, Template.render?, String.append_assoc]

/-- The line that marks a file as generated exports nothing. -/
lemma exportsOf_header {o : ConvertOptions} (ho : ∀ s ∈ o.timestamp, OneLine s) :
    exportsOf o.header = [] := by
  have hfirst : o.header.toList.head? = some '/' := by
    unfold ConvertOptions.header
    rw [String.append_assoc]
    exact head?_toList_append (by decide +kernel) _
  obtain ⟨rest,hrest⟩ := List.head?_eq_some_iff.mp hfirst
  have hnone : lineExport? o.header = none := by
    rw [lineExport?, hrest, afterPrefix?_of_ne rfl (by decide), Option.bind_none]
  rw [exportsOf, lines_of_oneLine (oneLine_header ho), List.filterMap_cons, hnone,
    List.filterMap_nil]

/-- A file that lies beside the file of exports has, up to its extension, the name that an export
gives. -/
def Export.IsFrom (e : Export) (o : ConvertOptions) (f : GeneratedFile) : Prop :=
  ∃ stem, e.source = "./" ++ stem ∧
    if e.isType then f.kind = .types ∧ f.path = o.componentPath (stem ++ ".ts")
    else f.kind = .component ∧ f.path = o.componentPath (stem ++ "." ++ o.componentExt)

section
variable {o : ConvertOptions} {d : Document} {out : ConversionOutput}

/-- Of the files of a component one is a component's, and none is a file of exports. -/
lemma filter_kind_convertComponent (o : ConvertOptions) (d : Document) (r : ComponentRegistry)
    (t : Target) :
    ((convertComponent o d r t).files.filter (·.kind == .component)).map (·.path) =
        [o.componentPath (t.name ++ "." ++ o.componentExt)] ∧
      (convertComponent o d r t).files.filter (·.kind == .index) = [] := by
  have hfiles : ∃ f types sheet, (convertComponent o d r t).files = f :: types ++ sheet ∧
      f.kind = .component ∧ f.path = o.componentPath (t.name ++ "." ++ o.componentExt) ∧
      (∀ g ∈ types, g.kind = .types) ∧ ∀ g ∈ sheet, g.kind = .stylesheet := by
    refine ⟨_,_,_,rfl,rfl,rfl,fun g hg => ?_,fun g hg => ?_⟩
    · exact kind_typesFile (Option.mem_toList.mp hg)
    · obtain ⟨css,-,rfl⟩ := Option.map_eq_some_iff.mp (Option.mem_toList.mp hg)
      rfl
  obtain ⟨f,types,sheet,hfiles,hkind,hpath,htypes,hsheet⟩ := hfiles
  have hnone : ∀ k : FileKind, k ≠ .types → k ≠ .stylesheet →
      (types ++ sheet).filter (·.kind == k) = [] := fun k ht hs => by
    rw [List.filter_eq_nil_iff]
    intro g hg
    obtain hg | hg := List.mem_append.mp hg
    · simpa [htypes g hg] using ht.symm
    · simpa [hsheet g hg] using hs.symm
  rw [hfiles, List.cons_append, List.filter_cons, List.filter_cons, hnone _ (by decide) (by decide),
    hnone _ (by decide) (by decide), hkind]
  exact ⟨congrArg ([·]) hpath,rfl⟩

/-- The component files of a conversion are those of its components, in order. -/
lemma filter_component_of_convert (hc : convert o d = .ok out) :
    (out.files.filter (·.kind == .component)).map (·.path) =
      out.components.map fun name => o.componentPath (name ++ "." ++ o.componentExt) := by
  have hshared : (if out.components.isEmpty then [] else
      indexFile o out.components :: (themeFile o o.tokenTable).toList).filter
        (·.kind == .component) = [] := by
    rw [List.filter_eq_nil_iff]
    intro f hf
    split at hf
    · contradiction
    · obtain rfl | hf := List.mem_cons.mp hf
      · simp [indexFile]
      · simp [kind_themeFile (Option.mem_toList.mp hf)]
  rw [files_of_convert hc, List.filter_append, hshared, List.append_nil, List.filter_flatMap,
    List.map_flatMap, components_of_convert hc, List.map_map, List.map_eq_flatMap]
  exact List.flatMap_congr fun t _ => (filter_kind_convertComponent o d _ t).1

/-- There is one file of exports if there are components. -/
lemma filter_index_of_convert (hc : convert o d = .ok out) :
    out.files.filter (·.kind == .index) =
      if out.components.isEmpty then [] else [indexFile o out.components] := by
  have htheme : (themeFile o o.tokenTable).toList.filter (·.kind == .index) = [] := by
    rw [List.filter_eq_nil_iff]
    intro f hf
    simp [kind_themeFile (Option.mem_toList.mp hf)]
  have hcomponents : ((nameTargets [] (targetNodes o d).1).flatMap fun t =>
      (convertComponent o d (FromDesign.registryOf d) t).files).filter (·.kind == .index) = [] := by
    rw [List.filter_flatMap, List.flatMap_eq_nil_iff]
    exact fun t _ => (filter_kind_convertComponent o d _ t).2
  rw [files_of_convert hc, List.filter_append, hcomponents, List.nil_append]
  split
  · rfl
  · rw [List.filter_cons, htheme]
    rfl

/-- What is exported comes from files of the run. -/
lemma exists_file_of_export (hc : convert o d = .ok out) {e : Export}
    (he : e ∈ out.components.flatMap (componentExports o)) : ∃ f ∈ out.files, e.IsFrom o f := by
  rw [components_of_convert hc] at he
  obtain ⟨name,hname,he⟩ := List.mem_flatMap.mp he
  obtain ⟨t,ht,rfl⟩ := List.mem_map.mp hname
  have hfiles := files_subset_of_convert hc ht
  obtain rfl | he := List.mem_cons.mp he
  · exact ⟨_,hfiles List.mem_cons_self,t.name,rfl,rfl,rfl⟩
  · obtain ⟨hts,he⟩ := List.mem_ite_nil_right.mp he
    obtain rfl := List.mem_singleton.mp he
    have htypes : ∃ f, typesFile o t.name (t.tree d).head.props (t.built o d).2 = some f ∧
        f.path = o.componentPath (t.name ++ ".types.ts") := by
      unfold typesFile
      rw [if_pos hts]
      exact ⟨_,rfl,rfl⟩
    obtain ⟨f,hf,hpath⟩ := htypes
    have hmem : f ∈ out.files := hfiles (List.mem_append_left _
      (List.mem_cons_of_mem _ (Option.mem_toList.mpr hf)))
    refine ⟨f,hmem,t.name ++ ".types",by rw [String.append_assoc],kind_typesFile hf,?_⟩
    rw [hpath, String.append_assoc]
    rfl

/-- A file of exports has those of all components after its header, which exports nothing unless the
time that it names goes on in another line. -/
theorem exports_of_index (hc : convert o d = .ok out) {f : GeneratedFile} (hf : f ∈ out.files)
    (hk : f.kind = .index) :
    f.path = o.componentPath ("index." ++ o.moduleExt) ∧
      (∃ body, f.content = o.header ++ "\n" ++ body ∧
        exportsOf body = out.components.flatMap (componentExports o)) ∧
      ((∀ s ∈ o.timestamp, OneLine s) →
        exportsOf f.content = out.components.flatMap (componentExports o)) := by
  have hmem : f ∈ out.files.filter (·.kind == .index) :=
    List.mem_filter.mpr ⟨hf,beq_iff_eq.mpr hk⟩
  rw [filter_index_of_convert hc] at hmem
  obtain ⟨-,hmem⟩ := List.mem_ite_nil_left.mp hmem
  obtain rfl := List.mem_singleton.mp hmem
  have hnames : ∀ name ∈ out.components, IsComponentName name := by
    rw [components_of_convert hc]
    exact List.forall_mem_map.mpr fun t ht => ((nodup_nameTargets [] _).2 t ht).1
  have hbody := exportsOf_exportTexts (o := o) hnames
  refine ⟨rfl,⟨_,content_indexFile o out.components,hbody⟩,fun ho => ?_⟩
  rw [content_indexFile, exportsOf, lines_append_lineFeed, List.filterMap_append, ← exportsOf,
    ← exportsOf, exportsOf_header ho, hbody, List.nil_append]

end

end DesignCompiler.Project
