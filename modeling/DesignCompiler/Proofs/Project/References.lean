import DesignCompiler.Proofs.FromDesign.TextProps
import DesignCompiler.Proofs.Markup.Pieces
import DesignCompiler.Proofs.Project.Conversion
import DesignCompiler.Proofs.Styling.Sources

/-! Every name to which the markup of a component refers is bound in its file: by a parameter, an
import, or a style definition ahead of the component. -/
namespace DesignCompiler.Project
open Document Styling Markup Output

/-- What stands ahead of the markup in the file of a component. -/
structure Preamble where
  imports : List String
  definitions : List StyleDefinition
  parameters : List String

namespace Preamble

/-- The parameters as they are destructured. -/
def parametersText (pre : Preamble) (o : ConvertOptions) (name : String) : String :=
  if pre.parameters.isEmpty then ""
  else
    "\x7b " ++ ", ".intercalate pre.parameters ++ " \x7d" ++
      if o.typescript then ": " ++ name ++ "Props" else ""

/-- The definitions, set off by blank lines. -/
def definitionsText (pre : Preamble) : String :=
  if pre.definitions.isEmpty then "\n"
  else "\n" ++ "\n\n".intercalate (pre.definitions.map (·.source)) ++ "\n\n"

/-- The text of a component's file around its markup. -/
def fileText (pre : Preamble) (o : ConvertOptions) (m : DesignCompiler.Markup) : String :=
  String.join [o.header,"\n","\n".intercalate pre.imports,"\n\n",
    UserBlocks.emptyBlock "imports" "","\n",pre.definitionsText,
    "export function ",m.component,"(",pre.parametersText o m.component,") \x7b\n",
    UserBlocks.emptyBlock "logic" "  ","\n",notesText m.notes,
    "  return (\n",m.text o.indentUnit markupDepth,"\n  );\n\x7d\n\nexport default ",
    m.component,";\n"]

end Preamble

/-- Whether a parameter binds a name, with a default or without one. -/
def IsParameter (name parameter : String) : Prop :=
  parameter = name ∨ ∃ value, parameter = name ++ " = " ++ value

/-- Whether a definition binds its name. -/
def Defines (d : StyleDefinition) : Prop := ∃ value, d.source = "const " ++ d.name ++ " = " ++ value

/-- What is in reach of the markup of a component: the name of the component, the props of its root,
what stands ahead of it in its file, and the files beside it. -/
structure Scope where
  component : String
  props : List PropDef
  preamble : Preamble
  files : List GeneratedFile

section
variable (o : ConvertOptions) (s : Scope)

/-- A style is bound when the file defines the name that it uses, or imports a style sheet that is
among the files. -/
inductive StyleBound : StyleUse → Prop
  | plain : StyleBound .plain
  | classes (cs : List String) : StyleBound (.classes cs)
  | moduleClass (name rule : String) {f : GeneratedFile} : f ∈ s.files → f.kind = .stylesheet →
      f.path = o.componentPath (s.component ++ ".module.css") →
      "import styles from './" ++ s.component ++ ".module.css';" ∈ s.preamble.imports →
      StyleBound (.moduleClass name rule)
  | styledTag {d e : StyleDefinition} : e ∈ s.preamble.definitions → e.name = d.name →
      Defines e → StyleBound (.styledTag d)
  | styleObject {d e : StyleDefinition} : e ∈ s.preamble.definitions → e.name = d.name →
      Defines e → StyleBound (.styleObject d)

/-- A part of markup is bound when every name in it has its binding. -/
inductive Bound : Jsx.Part → Prop
  | comment (text : String) : Bound (.comment text)
  | literal (text : String) : Bound (.content (.literal text))
  | prop {p parameter : String} {q : PropDef} : q ∈ s.props → q.name = p →
      parameter ∈ s.preamble.parameters → IsParameter p parameter → Bound (.content (.prop p))
  | collection {c : Collection} {parameter : String} : parameter ∈ s.preamble.parameters →
      IsParameter c.name parameter → Bound (.collection c)
  | icon {i : IconImport} (url : String) :
      "import " ++ i.ident ++ " from '" ++ url ++ "';" ∈ s.preamble.imports → Bound (.icon i)
  | own : Bound (.component s.component)
  | sibling {tag : String} :
      "import \x7b " ++ tag ++ " \x7d from './" ++ tag ++ "';" ∈ s.preamble.imports →
      Bound (.component tag)
  | opening {o' : Opening} : StyleBound o s o'.style → Bound (.opening o')

end

namespace Target
variable (o : ConvertOptions) (d : Document) (t : Target)

/-- The tree of a target. -/
def tree : Element := (FromDesign.build (FromDesign.registryOf d) (some d.styles) t.node).1

/-- What the markup of a document's components is built with. -/
def setting : Setting := ⟨⟨o.backend,o.themed,o.tokenTable⟩,FromDesign.registryOf d,o⟩

/-- The markup of a target, and the styling after it. -/
def built : Progress × DesignCompiler.Markup :=
  Markup.build (setting o d) (Progress.start.beginComponent t.name) t.name (t.tree d)

/-- The style sheet of a target, and the styling after it. -/
def sheet : Progress × Option String :=
  styleSheet (setting o d).scheme (t.built o d).1 [t.tree d]

/-- The imports for the styles of a target. -/
def styleLines : List String :=
  (styleImports (setting o d).scheme (t.sheet o d).1).filter fun line =>
    (t.sheet o d).2.isSome || !Text.contains line ".module.css"

/-- What stands ahead of the markup in the file of a target. -/
def preamble : Preamble where
  imports := importLines o t.name (t.built o d).2 (t.styleLines o d)
  definitions := (t.built o d).2.definitions
  parameters := (t.tree d).head.props.map paramText ++
    (t.built o d).2.collections.map collectionParam

/-- The scope of a target's markup, given the files beside it. -/
def scope (files : List GeneratedFile) : Scope where
  component := t.name
  props := (t.tree d).head.props
  preamble := t.preamble o d
  files := files

end Target

/-- The file of a component is its preamble around its markup. -/
lemma content_componentFile (o : ConvertOptions) (props : List PropDef)
    (m : DesignCompiler.Markup) (lines : List String) :
    (componentFile o m.component props m markupDepth lines).content =
      Preamble.fileText ⟨importLines o m.component m lines,m.definitions,
        props.map paramText ++ m.collections.map collectionParam⟩ o m := by
  simp [componentFile, fillIn, Template.component, Template.render?, componentFields,
    Preamble.fileText, Preamble.parametersText, Preamble.definitionsText, definitionsText,
    paramsText, String.append_assoc]

lemma isParameter_paramText (p : PropDef) : IsParameter p.name (paramText p) := by
  unfold paramText
  split
  · next value _ => exact .inr ⟨value,rfl⟩
  · exact .inl rfl

lemma isParameter_collectionParam (c : Collection) : IsParameter c.name (collectionParam c) := by
  have hsplit : " = Array.from(\x7b length: " = " = " ++ "Array.from(\x7b length: " := rfl
  refine .inr ⟨"Array.from(\x7b length: " ++ toString c.count ++ " \x7d)",?_⟩
  simp only [collectionParam, hsplit, String.append_assoc]

/-- A definition starts by binding its name. -/
lemma defines_of_definition? {s : Scheme} {h : ElementHead} {name : String} {e : StyleDefinition}
    (he : (useOf s.backend name (s.source h name)).definition? = some e) : Defines e := by
  rw [Scheme.source_eq_ownSource, Scheme.ownSource] at he
  cases hb : s.backend <;> rw [hb] at he <;> cases he
  case styledComponents =>
    refine ⟨"styled." ++ h.tag ++ "\x60\n" ++ declarationLines (s.ownDeclarations h) ++ "\x60;",?_⟩
    have hsplit : " = styled." = " = " ++ "styled." := rfl
    simp only [sourceText, hsplit, String.append_assoc]
  case emotion =>
    refine ⟨(if s.themed then "(theme: Theme) => " else "") ++ "css\x60\n" ++
      declarationLines (s.ownDeclarations h) ++ "\x60;",?_⟩
    simp only [sourceText, String.append_assoc]

section
variable {o : ConvertOptions} {d : Document} {t : Target} {files : List GeneratedFile}

/-- The file of a target is one of the conversion's. -/
lemma exists_file_of_target {out : ConversionOutput} (hc : convert o d = .ok out)
    (ht : t ∈ nameTargets [] (targetNodes o d).1) :
    ∃ f ∈ out.files, f.kind = .component ∧
      f.path = o.componentPath (t.name ++ "." ++ o.componentExt) ∧
      f.content = (t.preamble o d).fileText o (t.built o d).2 :=
  ⟨_,files_subset_of_convert hc ht List.mem_cons_self,rfl,rfl,
    content_componentFile o _ (t.built o d).2 _⟩

/-- The files of a component are its own, that of its types and its style sheet. -/
lemma convertComponent_cases {f : GeneratedFile}
    (hf : f ∈ (convertComponent o d (FromDesign.registryOf d) t).files) :
    f.kind = .component ∧ f.path = o.componentPath (t.name ++ "." ++ o.componentExt) ∧
        f.content = (t.preamble o d).fileText o (t.built o d).2 ∨
      f.kind = .types ∨ f.kind = .stylesheet := by
  obtain hf | hf := List.mem_append.mp hf
  · obtain rfl | hf := List.mem_cons.mp hf
    · exact .inl ⟨rfl,rfl,content_componentFile o _ (t.built o d).2 _⟩
    · exact .inr (.inl (kind_typesFile (Option.mem_toList.mp hf)))
  · obtain ⟨css,-,rfl⟩ := Option.map_eq_some_iff.mp (Option.mem_toList.mp hf)
    exact .inr (.inr rfl)

lemma kind_of_mem_convertComponent {f : GeneratedFile}
    (hf : f ∈ (convertComponent o d (FromDesign.registryOf d) t).files) :
    f.kind ≠ .index ∧ f.kind ≠ .theme := by
  obtain ⟨hk,-⟩ | hk | hk := convertComponent_cases hf <;>
  · rw [hk]
    exact ⟨nofun,nofun⟩

section
variable {out : ConversionOutput} {f : GeneratedFile} (hc : convert o d = .ok out)
include hc

/-- The component files of a conversion are those of its targets. -/
lemma exists_target_of_component (hf : f ∈ out.files) (hk : f.kind = .component) :
    ∃ t ∈ nameTargets [] (targetNodes o d).1,
      f.path = o.componentPath (t.name ++ "." ++ o.componentExt) ∧
      f.content = (t.preamble o d).fileText o (t.built o d).2 := by
  obtain ⟨t,ht,hf⟩ | rfl | hf := mem_files_of_convert hc hf
  · obtain ⟨-,hfile⟩ | htypes | hsheet := convertComponent_cases hf
    · exact ⟨t,ht,hfile⟩
    · rw [htypes] at hk
      contradiction
    · rw [hsheet] at hk
      contradiction
  · contradiction
  · rw [kind_themeFile hf] at hk
    contradiction

lemma eq_indexFile_of_kind (hf : f ∈ out.files) (hk : f.kind = .index) :
    f = indexFile o out.components := by
  obtain ⟨t,-,hf⟩ | hf | hf := mem_files_of_convert hc hf
  · exact absurd hk (kind_of_mem_convertComponent hf).1
  · exact hf
  · rw [kind_themeFile hf] at hk
    contradiction

lemma themeFile_of_kind (hf : f ∈ out.files) (hk : f.kind = .theme) :
    themeFile o o.tokenTable = some f := by
  obtain ⟨t,-,hf⟩ | rfl | hf := mem_files_of_convert hc hf
  · exact absurd hk (kind_of_mem_convertComponent hf).2
  · contradiction
  · exact hf

/-- Without types there are no files of types. -/
lemma kind_ne_types (hts : o.typescript = false) (hf : f ∈ out.files) : f.kind ≠ .types := by
  obtain ⟨t,-,hf⟩ | rfl | hf := mem_files_of_convert hc hf
  · obtain hf | hf := List.mem_append.mp hf
    · obtain rfl | hf := List.mem_cons.mp hf
      · exact nofun
      · unfold typesFile at hf
        rw [hts] at hf
        nomatch hf
    · obtain ⟨css,-,rfl⟩ := Option.map_eq_some_iff.mp (Option.mem_toList.mp hf)
      exact nofun
  · exact nofun
  · rw [kind_themeFile hf]
    exact nofun

end

lemma renders_built (o : ConvertOptions) (d : Document) (t : Target) :
    Renders (Target.setting o d).scheme (Progress.start.beginComponent t.name)
      (rendered (t.tree d)) (t.built o d).2.root.parts (t.built o d).1 :=
  renders_build _ _ _ _

/-- A prop in a text is one of the root's. -/
lemma bound_content {c : TextContent} (hc : .content c ∈ (t.built o d).2.root.parts) :
    Bound o (t.scope o d files) (.content c) := by
  cases c with
  | literal text => exact .literal text
  | prop p =>
    obtain ⟨h,hh,hp⟩ := (renders_built o d t).contents _ hc
    have hwalk := (rendered_sublist_walk (t.tree d)).subset hh
    have hbinding : h.remarks.propBinding = some p := by
      unfold contentOf at hp
      split at hp
      · next q hq =>
        rw [hq]
        cases hp
        rfl
      · contradiction
    obtain ⟨q,hq,hname⟩ := FromDesign.text_props_declared _ _ t.node hwalk hbinding
    exact .prop hq hname (List.mem_append_left _ (List.mem_map_of_mem hq))
      (hname ▸ isParameter_paramText q)

lemma bound_collection {c : Collection} (hc : .collection c ∈ (t.built o d).2.root.parts) :
    Bound o (t.scope o d files) (.collection c) := by
  have hmem : c ∈ (t.built o d).2.collections := List.mem_filterMap.mpr ⟨_,hc,rfl⟩
  exact .collection (List.mem_append_right _ (List.mem_map_of_mem hmem))
    (isParameter_collectionParam c)

lemma bound_icon {i : IconImport} (hi : .icon i ∈ (t.built o d).2.root.parts) :
    Bound o (t.scope o d files) (.icon i) := by
  obtain ⟨j,hj,hk⟩ : ∃ j ∈ (t.built o d).2.icons, j.ident = i.ident :=
    exists_mem_firstByKey (List.mem_filterMap.mpr ⟨_,hi,rfl⟩) List.not_mem_nil
  refine .icon j.url ?_
  rw [← hk]
  simp only [Target.scope, Target.preamble, importLines, List.mem_append, List.mem_map]
  exact .inl (.inr ⟨j,hj,rfl⟩)

lemma bound_component {tag : String} (ht : .component tag ∈ (t.built o d).2.root.parts) :
    Bound o (t.scope o d files) (.component tag) := by
  by_cases hown : tag = t.name
  · rw [hown]
    exact .own
  · have hne : (tag == (t.built o d).2.component) = false := beq_eq_false_iff_ne.mpr hown
    obtain ⟨c,hc,rfl⟩ : ∃ c ∈ (t.built o d).2.components, id c = id tag :=
      exists_mem_firstByKey (List.mem_filterMap.mpr ⟨_,ht,by simp [hne]⟩) List.not_mem_nil
    refine .sibling ?_
    simp only [Target.scope, Target.preamble, importLines, List.mem_append, List.mem_map]
    exact .inl (.inl (.inr ⟨c,hc,rfl⟩))

lemma mem_styles {o' : Opening} (ho : .opening o' ∈ (t.built o d).2.root.parts) :
    o'.style ∈ (openings (t.built o d).2.root.parts).map (·.style) :=
  List.mem_map_of_mem (List.mem_filterMap.mpr ⟨_,ho,rfl⟩)

/-- A definition ahead of a component is that of a style in the markup. -/
lemma exists_style_of_mem_definitions {e : StyleDefinition}
    (he : e ∈ (t.built o d).2.definitions) :
    ∃ u ∈ (styleAll (Target.setting o d).scheme (Progress.start.beginComponent t.name)
      (rendered (t.tree d))).2, u.definition? = some e := by
  rw [definitions_eq_firstByKey, (renders_built o d t).styles] at he
  exact List.mem_filterMap.mp (mem_of_mem_firstByKey he)

/-- It is the definition of an element of the target's tree. -/
lemma exists_use_of_mem_definitions {e : StyleDefinition}
    (he : e ∈ (t.built o d).2.definitions) :
    ∃ h ∈ (t.tree d).walk, ∃ name,
      (useOf o.backend name ((Target.setting o d).scheme.source h name)).definition? = some e := by
  obtain ⟨u,hu,he⟩ := exists_style_of_mem_definitions he
  obtain ⟨h,hh,p,rfl⟩ := exists_of_mem_styleAll hu
  obtain hs | ⟨cs,hs⟩ | ⟨-,-,name,hs⟩ := styleElement_cases (Target.setting o d).scheme p h
  · rw [hs] at he
    contradiction
  · rw [hs] at he
    contradiction
  · rw [hs] at he
    exact ⟨h,(rendered_sublist_walk (t.tree d)).subset hh,name,he⟩

lemma defines_of_mem_definitions {e : StyleDefinition} (he : e ∈ (t.built o d).2.definitions) :
    Defines e := by
  obtain ⟨h,-,name,hdef⟩ := exists_use_of_mem_definitions he
  exact defines_of_definition? (s := (Target.setting o d).scheme) hdef

/-- A definition to which a style refers stands ahead of the component. -/
lemma exists_definition {u : StyleUse} {e : StyleDefinition}
    (hu : u ∈ (openings (t.built o d).2.root.parts).map (·.style)) (he : u.definition? = some e) :
    ∃ e' ∈ (t.built o d).2.definitions, e'.name = e.name ∧ Defines e' := by
  obtain ⟨e',he',hname⟩ : ∃ e' ∈ (t.built o d).2.definitions, e'.name = e.name := by
    rw [definitions_eq_firstByKey]
    exact exists_mem_firstByKey (List.mem_filterMap.mpr ⟨u,hu,he⟩) List.not_mem_nil
  exact ⟨e',he',hname,defines_of_mem_definitions he'⟩

/-- An element that has a class of the style sheet is one that needs a style. -/
lemma exists_declared {name rule : String}
    (hu : .moduleClass name rule ∈ (openings (t.built o d).2.root.parts).map (·.style)) :
    o.backend = .cssModules ∧
      ∃ h ∈ (t.tree d).walk, (Target.setting o d).scheme.declares h = true := by
  rw [(renders_built o d t).styles] at hu
  obtain ⟨h,hh,p',hs⟩ := exists_of_mem_styleAll hu
  obtain hs' | ⟨cs,hs'⟩ | ⟨hd,hb,name',hs'⟩ := styleElement_cases (Target.setting o d).scheme p' h
  · rw [hs'] at hs
    contradiction
  · rw [hs'] at hs
    contradiction
  · rw [hs'] at hs
    refine ⟨?_,h,(rendered_sublist_walk _).subset hh,hd⟩
    change o.backend ≠ _ at hb
    change _ = useOf o.backend _ _ at hs
    cases hk : o.backend <;> rw [hk] at hs hb <;> contradiction

lemma component_sheet (o : ConvertOptions) (d : Document) (t : Target) :
    (t.sheet o d).1.component = t.name := by
  rw [Target.sheet, component_styleSheet, ← (renders_built o d t).progress, component_styleAll]
  rfl

/-- How the style sheet of a component is imported. -/
lemma importOfSheet_eq (component : String) :
    "import styles from './" ++ styleSheetFile component ++ "';" =
      "import styles from './" ++ component ++ ".module.css';" := by
  have hsplit : ".module.css';" = ".module.css" ++ "';" := rfl
  simp only [styleSheetFile, hsplit, String.append_assoc]

/-- Where an element has a class of the style sheet, there is a style sheet, and it is imported. -/
lemma exists_sheet {name rule : String}
    (hu : .moduleClass name rule ∈ (openings (t.built o d).2.root.parts).map (·.style)) :
    (∃ css, (t.sheet o d).2 = some css) ∧
      "import styles from './" ++ styleSheetFile t.name ++ "';" ∈ (t.preamble o d).imports := by
  obtain ⟨hb,h,hh,hd⟩ := exists_declared hu
  have hsound : (t.built o d).1.collector.Sound := by
    rw [← (renders_built o d t).progress]
    refine sound_styleAll ?_ StyleCollector.sound_empty _
    change o.backend ≠ _
    rw [hb]
    decide
  have hsome : (t.sheet o d).2.isSome = true := by
    refine isSome_styleSheet hb hsound ?_ hd
    rwa [List.flatMap_singleton]
  refine ⟨Option.isSome_iff_exists.mp hsome,?_⟩
  have hline : "import styles from './" ++ styleSheetFile t.name ++ "';" ∈
      styleImports (Target.setting o d).scheme (t.sheet o d).1 := by
    rw [styleImports, component_sheet]
    simp [Target.setting, hb]
  have hpragma : isPragma ("import styles from './" ++ styleSheetFile t.name ++ "';") = false := by
    simp [isPragma, List.isPrefixOf]
  simp only [Target.preamble, importLines, List.mem_append, List.mem_filter, Target.styleLines]
  exact .inl (.inl (.inl (.inr ⟨⟨hline,by rw [hsome]; rfl⟩,by rw [hpragma]; rfl⟩)))

lemma bound_opening {o' : Opening} (ho : .opening o' ∈ (t.built o d).2.root.parts)
    (hfiles : (convertComponent o d (FromDesign.registryOf d) t).files ⊆ files) :
    Bound o (t.scope o d files) (.opening o') := by
  have hu := mem_styles ho
  refine .opening ?_
  generalize o'.style = u at hu
  cases u with
  | plain => exact .plain
  | classes cs => exact .classes cs
  | moduleClass name rule =>
    obtain ⟨⟨css,hcss⟩,himport⟩ := exists_sheet hu
    refine .moduleClass name rule (f := styleSheetOf o t.name css) (hfiles ?_) rfl rfl
      (importOfSheet_eq t.name ▸ himport)
    refine List.mem_append_right _ ?_
    change _ ∈ ((t.sheet o d).2.map (styleSheetOf o t.name)).toList
    rw [hcss]
    exact List.mem_singleton_self _
  | styledTag e =>
    obtain ⟨e',he',hname,hdef⟩ := exists_definition hu rfl
    exact .styledTag he' hname hdef
  | styleObject e =>
    obtain ⟨e',he',hname,hdef⟩ := exists_definition hu rfl
    exact .styleObject he' hname hdef

/-- Every part of the markup of a converted component is bound. -/
lemma bound_of_mem_parts {part : Jsx.Part} (hp : part ∈ (t.built o d).2.root.parts)
    (hfiles : (convertComponent o d (FromDesign.registryOf d) t).files ⊆ files) :
    Bound o (t.scope o d files) part := by
  cases part with
  | comment text => exact .comment text
  | icon i => exact bound_icon hp
  | component tag => exact bound_component hp
  | opening o' => exact bound_opening hp hfiles
  | content c => exact bound_content hp
  | collection c => exact bound_collection hp

end

/-- Every name in the markup of a converted component is bound in its file: the markup is written in
pieces, and each part of it has its binding ahead of it. -/
theorem references_bound {o : ConvertOptions} {d : Document} {out : ConversionOutput} {t : Target}
    (hc : convert o d = .ok out) (ht : t ∈ nameTargets [] (targetNodes o d).1) :
    let m := (t.built o d).2
    ∃ f ∈ out.files, f.kind = .component ∧
      f.path = o.componentPath (t.name ++ "." ++ o.componentExt) ∧
      f.content = (t.preamble o d).fileText o m ∧ m.IsWritten ∧
      ∀ part ∈ m.written, Bound o (t.scope o d out.files) part := by
  intro m
  have hfiles := files_subset_of_convert hc ht
  refine ⟨componentFile o t.name (t.tree d).head.props m markupDepth (t.styleLines o d),
    hfiles List.mem_cons_self,rfl,rfl,content_componentFile o _ m _,isWritten m,fun part hp => ?_⟩
  rw [written, ← Jsx.parts_eq_flatMap_ownParts] at hp
  exact bound_of_mem_parts hp hfiles

/-- A card in a row with a label that a prop supplies, stars that one icon stands for, and an
instance of another component, styled by a style sheet. -/
theorem references_bound_card :
    let label : Attributes := { Attributes.bare "2" "Label" .text with
      characters := some "Hi", propertyReferences := [("characters","label#1")] }
    let card : Attributes := { Attributes.bare "1" "Card" .component with
      layoutMode := some .horizontal
      propertyDefinitions := [("label#1",⟨.text,.string "Hi",[]⟩)] }
    let star (id name : String) : Child := .node (.bare id name .star) []
    let badge : Attributes := { Attributes.bare "6" "Badge" .componentInstance with
      componentId := some "9" }
    let t : Target := ⟨⟨card,[.node label [],star "3" "Star 1",star "4" "Star 2",star "5" "Star 3",
      .node badge []]⟩,"Card"⟩
    let d : Document := { Document.ofRoot t.node with components := [("9",⟨"Badge","",none⟩)] }
    let o : ConvertOptions := { ConvertOptions.standard with
      backend := .cssModules, assets := [("3","star.svg")] }
    let m := (t.built o d).2
    m.text "  " 2 = "    <div className=\x7bstyles.card\x7d>\n" ++
        "      <p className=\x7bstyles.label\x7d>\x7blabel\x7d</p>\n" ++
        "      \x7bstarItems.map((item, index) => (\n" ++
        "        <Star1Icon key=\x7bindex\x7d />\n" ++
        "      ))\x7d\n" ++
        "      <Badge />\n" ++
        "    </div>" ∧
      (t.preamble o d).imports = ["import React from 'react';",
        "import styles from './Card.module.css';","import \x7b Badge \x7d from './Badge';",
        "import Star1Icon from '/assets/star.svg';",
        "import type \x7b CardProps \x7d from './Card.types';"] ∧
      (t.preamble o d).parameters =
        ["label = 'Hi'","starItems = Array.from(\x7b length: 3 \x7d)"] ∧
      ∃ out, convert o d = .ok out ∧
        (∃ f ∈ out.files, f.path = "components/Card.tsx" ∧
          f.content = (t.preamble o d).fileText o m) ∧
        (∃ g ∈ out.files, g.path = "components/Card.module.css") ∧
        (∃ q ∈ (t.tree d).head.props, q.name = "label") ∧
        ∀ part ∈ [.content (.prop "label"),.collection ⟨"starItems",3⟩,
          .icon ⟨"Star1Icon","/assets/star.svg"⟩,.component "Badge"],
          part ∈ m.written ∧ Bound o (t.scope o d out.files) part := by
  intro label card star badge t d o m
  have hok : (convert o d).isOk = true := by decide +kernel
  have hwritten : ∀ part ∈ [.content (.prop "label"),.collection ⟨"starItems",3⟩,
      .icon ⟨"Star1Icon","/assets/star.svg"⟩,.component "Badge"], part ∈ m.written := by
    decide +kernel
  have hclass : .opening ⟨"div",.moduleClass "card"
      ".card \x7b\n  display: flex;\n  flex-direction: row;\n\x7d\n",false,[]⟩ ∈ m.written := by
    decide +kernel
  have hfile : o.componentPath (t.name ++ "." ++ o.componentExt) = "components/Card.tsx" := by
    decide +kernel
  have hsheet : o.componentPath (t.name ++ ".module.css") = "components/Card.module.css" := by
    decide +kernel
  have hname : Naming.fresh [] (Naming.componentIdentifier "Card") = "Card" := by decide +kernel
  have ht : t ∈ nameTargets [] (targetNodes o d).1 := by
    change t ∈ [⟨t.node,Naming.fresh [] (Naming.componentIdentifier "Card")⟩]
    rw [hname]
    exact List.mem_singleton_self t
  refine ⟨by decide +kernel,by decide +kernel,by decide +kernel,?_⟩
  cases hc : convert o d with
  | error e =>
    rw [hc] at hok
    exact nomatch hok
  | ok out =>
    obtain ⟨f,hf,-,hpath,hcontent,-,hbound⟩ := references_bound hc ht
    refine ⟨out,rfl,⟨f,hf,hpath.trans hfile,hcontent⟩,?_,?_,fun part hp =>
      ⟨hwritten part hp,hbound part (hwritten part hp)⟩⟩
    · cases hbound _ hclass with
      | opening hs =>
        cases hs with
        | moduleClass _ _ hg _ hg' _ =>
          exact ⟨_,hg,hg'.trans hsheet⟩
    · cases hbound _ (hwritten _ List.mem_cons_self) with
      | prop hq hq' _ _ =>
        simp only [Target.scope] at hq
        exact ⟨_,hq,hq'⟩

end DesignCompiler.Project
