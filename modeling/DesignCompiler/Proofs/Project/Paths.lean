import DesignCompiler.Proofs.Naming.ComponentName
import DesignCompiler.Proofs.Output.Isolation
import DesignCompiler.Proofs.Project.Conversion
import Mathlib.Data.List.Nodup

/-! The paths of generated files. No two files have the same path, unless the theme is a script and
the folder of components is itself called `theme`: then that folder has two index files. -/
namespace DesignCompiler.Project
open Naming Output Styling

/-! ## Names and folders -/

/-- What stands ahead of a mark tells two texts apart that have it nowhere before. -/
lemma append_inj_of_notMem {c : Char} {a b as bs : List Char} (ha : c ∉ a) (hb : c ∉ b)
    (h : a ++ c :: as = b ++ c :: bs) : a = b ∧ as = bs := by
  have hcut := congrArg (Text.cutAt c) h
  rw [Text.cutAt_append ha, Text.cutAt_append hb] at hcut
  exact Prod.mk.inj (Option.some.inj hcut)

/-- A path is its folder and its file. -/
lemma path_inj {dir dir' file file' : String} (h : '/' ∉ file.toList) (h' : '/' ∉ file'.toList) :
    dir ++ "/" ++ file = dir' ++ "/" ++ file' ↔ dir = dir' ∧ file = file' := by
  constructor
  · intro he
    have hslash : "/".toList = ['/'] := rfl
    have hr := congrArg (fun s : String => s.toList.reverse) he
    simp only [String.toList_append, List.reverse_append, hslash, List.reverse_singleton,
      List.singleton_append] at hr
    obtain ⟨hf,hd⟩ := append_inj_of_notMem (by simpa using h) (by simpa using h') hr
    exact ⟨String.toList_inj.mp (List.reverse_inj.mp hd),
      String.toList_inj.mp (List.reverse_inj.mp hf)⟩
  · rintro ⟨rfl,rfl⟩
    rfl

section
variable {o : ConvertOptions} {d : Document} {name name' : String}

lemma componentPath_inj {f g : String} : o.componentPath f = o.componentPath g ↔ f = g :=
  String.append_right_inj _

/-- What follows the name of a component in the names of its files. -/
def ConvertOptions.endings (o : ConvertOptions) : List String :=
  ["." ++ o.componentExt,".types.ts",".module.css"]

/-- An ending starts with a point and names no folder. -/
lemma of_mem_endings {e : String} (he : e ∈ o.endings) :
    ∃ es, e.toList = '.' :: es ∧ '/' ∉ es := by
  simp only [ConvertOptions.endings, List.mem_cons, List.not_mem_nil, or_false] at he
  obtain rfl | rfl | rfl := he
  · refine ⟨o.componentExt.toList,by rw [String.toList_append]; rfl,?_⟩
    unfold ConvertOptions.componentExt
    split <;> decide
  · exact ⟨_,rfl,by decide⟩
  · exact ⟨_,rfl,by decide⟩

lemma nodup_endings (o : ConvertOptions) : o.endings.Nodup := by
  unfold ConvertOptions.endings ConvertOptions.componentExt
  split <;> decide

lemma append_ending_inj (h : IsComponentName name) (h' : IsComponentName name') {e e' : String}
    (he : e ∈ o.endings) (he' : e' ∈ o.endings) (heq : name ++ e = name' ++ e') :
    name = name' ∧ e = e' := by
  obtain ⟨es,hes,-⟩ := of_mem_endings he
  obtain ⟨es',hes',-⟩ := of_mem_endings he'
  have hl := congrArg String.toList heq
  rw [String.toList_append, String.toList_append, hes, hes'] at hl
  obtain ⟨hn,he⟩ := append_inj_of_notMem (h.notMem (by decide) (by decide))
    (h'.notMem (by decide) (by decide)) hl
  refine ⟨String.toList_inj.mp hn,String.toList_inj.mp ?_⟩
  rw [hes, hes', he]

/-! ## The files of one component -/

lemma names_nameTargets (used : List String) (nodes : List Document.Node) :
    (nameTargets used nodes).map (·.name) =
      freshNames used (nodes.map fun n => componentIdentifier n.attrs.name) := by
  induction nodes generalizing used with
  | nil => rfl
  | cons n ns ih =>
    rw [nameTargets, List.map_cons, ih]
    rfl

/-- Names of components are capitalised and all different. -/
lemma nodup_nameTargets (used : List String) (nodes : List Document.Node) :
    ((nameTargets used nodes).map (·.name)).Nodup ∧
      ∀ t ∈ nameTargets used nodes, IsComponentName t.name ∧ t.name ∉ used := by
  obtain ⟨hnodup,hnew⟩ := nodup_freshNames used
    (nodes.map fun n => componentIdentifier n.attrs.name)
  rw [← names_nameTargets] at hnodup hnew
  refine ⟨hnodup,fun t ht => ?_⟩
  have hmem := List.mem_map_of_mem (f := Target.name) ht
  refine ⟨?_,hnew t.name hmem⟩
  rw [names_nameTargets] at hmem
  obtain ⟨w,hw,before,hname⟩ := exists_of_mem_freshNames hmem
  obtain ⟨n,-,rfl⟩ := List.mem_map.mp hw
  rw [hname]
  exact isComponentName_fresh (isComponentName_componentIdentifier n.attrs.name) before

lemma sublist_paths (o : ConvertOptions) (name : String) (props : List PropDef)
    (m : DesignCompiler.Markup) (depth : ℕ) (imports : List String) (sheet : Option String) :
    ((componentFile o name props m depth imports :: (typesFile o name props m).toList ++
      (sheet.map (styleSheetOf o name)).toList).map (·.path)).Sublist
        (o.endings.map fun e => o.componentPath (name ++ e)) := by
  have hfile : (componentFile o name props m depth imports).path =
      o.componentPath (name ++ ("." ++ o.componentExt)) := by
    rw [← String.append_assoc]
    rfl
  have htypes : ((typesFile o name props m).toList.map (·.path)).Sublist
      [o.componentPath (name ++ ".types.ts")] := by
    unfold typesFile
    split
    · exact List.Sublist.refl _
    · exact List.nil_sublist _
  have hsheet : ((sheet.map (styleSheetOf o name)).toList.map (·.path)).Sublist
      [o.componentPath (name ++ ".module.css")] := by
    cases sheet with
    | none => exact List.nil_sublist _
    | some css => exact List.Sublist.refl _
  rw [List.cons_append, List.map_cons, List.map_append, hfile]
  exact (htypes.append hsheet).cons_cons _

/-- The files of a component have its name with different endings. -/
lemma paths_convertComponent (o : ConvertOptions) (d : Document) (r : ComponentRegistry)
    (t : Target) : ((convertComponent o d r t).files.map (·.path)).Sublist
      (o.endings.map fun e => o.componentPath (t.name ++ e)) :=
  sublist_paths ..

/-- A path of a component's file. -/
lemma exists_ending {r : ComponentRegistry} {t : Target} {path : String}
    (h : path ∈ (convertComponent o d r t).files.map (·.path)) :
    ∃ e ∈ o.endings, o.componentPath (t.name ++ e) = path :=
  List.mem_map.mp ((paths_convertComponent o d r t).subset h)

/-- Components of different names have no path in common. -/
lemma nodup_paths_components {ts : List Target} (hn : (ts.map (·.name)).Nodup)
    (hname : ∀ t ∈ ts, IsComponentName t.name) (r : ComponentRegistry) :
    (ts.flatMap fun t => (convertComponent o d r t).files.map (·.path)).Nodup := by
  refine List.nodup_flatMap.mpr ⟨fun t ht => ?_,?_⟩
  · refine (paths_convertComponent o d r t).nodup (List.Nodup.map_on ?_ (nodup_endings o))
    intro e he e' he' heq
    exact (append_ending_inj (hname t ht) (hname t ht) he he' (componentPath_inj.mp heq)).2
  · refine (List.pairwise_map.mp hn).imp_of_mem fun {t u} ht hu hne path hpath hpath' => ?_
    obtain ⟨e,he,rfl⟩ := exists_ending hpath
    obtain ⟨e',he',heq⟩ := exists_ending hpath'
    exact hne (append_ending_inj (hname t ht) (hname u hu) he he'
      (componentPath_inj.mp heq.symm)).1

end

/-! ## The files beside the components -/

namespace ConvertOptions
variable (o : ConvertOptions)

/-- The last name of a path. -/
def lastName (cs : List Char) : List Char := (cs.reverse.takeWhile (!isSlash ·)).reverse

/-- The theme is a script, so that it has an index file. -/
def HasThemeScript : Prop :=
  o.themed = true ∧ (o.backend = .styledComponents ∨ o.backend = .emotion)

/-- The theme has an index file, and the folder of components is called like that of the theme. -/
def SharesThemeFolder : Prop :=
  o.HasThemeScript ∧
    lastName (Text.dropEndWhile isSlash o.componentsDir.toList) = "theme".toList

instance : Decidable o.HasThemeScript := inferInstanceAs (Decidable (_ ∧ _))

instance : Decidable o.SharesThemeFolder := inferInstanceAs (Decidable (_ ∧ _))

/-- A path is what stands before its last name and that name. -/
lemma dropEndWhile_append_lastName (cs : List Char) :
    Text.dropEndWhile (!isSlash ·) cs ++ lastName cs = cs := by
  rw [Text.dropEndWhile, lastName, ← List.reverse_append, List.takeWhile_append_dropWhile,
    List.reverse_reverse]

lemma toList_themeDir : o.themeDir.toList =
    Text.dropEndWhile (!isSlash ·) (Text.dropEndWhile isSlash o.componentsDir.toList) ++
      "theme".toList := by
  unfold themeDir
  generalize Text.dropEndWhile isSlash o.componentsDir.toList = dir
  dsimp only
  split
  · rw [String.toList_append, String.toList_ofList]
  · next hslash =>
    have hnone : ∀ c ∈ dir.reverse, (!isSlash c) = true := by
      intro c hc
      have hne : c ≠ '/' := by
        rintro rfl
        exact hslash (by simpa using hc)
      simp [isSlash, hne]
    have hdrop : dir.reverse.dropWhile (!isSlash ·) = [] := by
      rw [← List.append_nil dir.reverse, List.dropWhile_append_of_pos hnone, List.dropWhile_nil]
    rw [Text.dropEndWhile, hdrop]
    rfl

/-- The folder of components is that of the theme just when it is called so. -/
lemma eq_themeDir_iff : withoutFinalSlashes o.componentsDir = o.themeDir ↔
    lastName (Text.dropEndWhile isSlash o.componentsDir.toList) = "theme".toList := by
  rw [← String.toList_inj, toList_themeDir, withoutFinalSlashes, String.toList_ofList]
  generalize Text.dropEndWhile isSlash o.componentsDir.toList = dir
  conv_lhs => lhs; rw [← dropEndWhile_append_lastName dir]
  rw [List.append_cancel_left_eq]

end ConvertOptions

section
variable {o : ConvertOptions} {t : Tokens.TokenTable} {name file : String}

lemma slash_notMem_indexFile (o : ConvertOptions) : '/' ∉ ("index." ++ o.moduleExt).toList := by
  unfold ConvertOptions.moduleExt
  split <;> decide

/-- The theme is an index file or a style sheet in its folder, or there is none. -/
lemma themeFile_cases (o : ConvertOptions) (t : Tokens.TokenTable) :
    o.HasThemeScript ∧ (∃ f, themeFile o t = some f ∧
        f.path = o.themeDir ++ "/" ++ ("index." ++ o.moduleExt)) ∨
      ¬ o.HasThemeScript ∧ ∀ f ∈ themeFile o t, f.path = o.themeDir ++ "/" ++ "tokens.css" := by
  have hindex : "/index." = "/" ++ "index." := rfl
  have hsheet : "/tokens.css" = "/" ++ "tokens.css" := rfl
  simp only [String.append_assoc]
  unfold themeFile ConvertOptions.HasThemeScript
  simp only [hindex, hsheet, String.append_assoc]
  cases ht : o.themed with
  | false => exact .inr (by simp)
  | true =>
    cases hb : o.backend with
    | tailwind | cssModules => exact .inr (by simp)
    | styledComponents | emotion => exact .inl (by simp)

end

/-! ## All files -/

/-- The paths of the files that all components share. -/
def ConvertOptions.sharedPaths (o : ConvertOptions) : List String :=
  o.componentPath ("index." ++ o.moduleExt) :: (themeFile o o.tokenTable).toList.map (·.path)

section
variable {o : ConvertOptions} {d : Document} {out : ConversionOutput}

lemma paths_of_convert (hc : convert o d = .ok out) :
    out.files.map (·.path) = ((nameTargets [] (targetNodes o d).1).flatMap fun t =>
        (convertComponent o d (FromDesign.registryOf d) t).files.map (·.path)) ++
      if out.components.isEmpty then [] else o.sharedPaths := by
  rw [files_of_convert hc, List.map_append, List.map_flatMap]
  congr 1
  split <;> rfl

/-- The shared files have two paths, unless the theme has its index in the folder of components. -/
lemma nodup_sharedPaths : o.sharedPaths.Nodup ↔ ¬ o.SharesThemeFolder := by
  rw [ConvertOptions.sharedPaths, ConvertOptions.SharesThemeFolder, ← o.eq_themeDir_iff]
  have hslash := slash_notMem_indexFile o
  obtain ⟨hscript,f,hf,hpath⟩ | ⟨hscript,hpath⟩ := themeFile_cases o o.tokenTable
  · have hinj : o.componentPath ("index." ++ o.moduleExt) = f.path ↔
        ConvertOptions.withoutFinalSlashes o.componentsDir = o.themeDir := by
      rw [hpath, ConvertOptions.componentPath, path_inj hslash hslash, and_iff_left rfl]
    simp [hf, hinj, hscript]
  · refine iff_of_true ?_ fun h => hscript h.1
    cases hf : themeFile o o.tokenTable with
    | none => exact List.nodup_singleton _
    | some f =>
      have hne : "index." ++ o.moduleExt ≠ "tokens.css" := by
        unfold ConvertOptions.moduleExt
        split <;> decide
      have hinj : o.componentPath ("index." ++ o.moduleExt) ≠ f.path := by
        rw [hpath f hf, ConvertOptions.componentPath, Ne, path_inj hslash (by decide)]
        exact fun h => hne h.2
      simpa using hinj

/-- A component has no path of a shared file, whose name has no capital. -/
lemma sharedPaths_disjoint {t : Target} (ht : IsComponentName t.name) {r : ComponentRegistry}
    {path : String} (h : path ∈ (convertComponent o d r t).files.map (·.path)) :
    path ∉ o.sharedPaths := by
  obtain ⟨e,he,rfl⟩ := exists_ending h
  obtain ⟨es,hes,hslash⟩ := of_mem_endings he
  have hfile : '/' ∉ (t.name ++ e).toList := by
    rw [String.toList_append, hes, List.mem_append, List.mem_cons, not_or, not_or]
    exact ⟨ht.notMem (by decide) (by decide),by decide,hslash⟩
  have hindex : t.name ++ e ≠ "index." ++ o.moduleExt :=
    ht.append_ne (by rw [String.toList_append]; rfl) (by decide) e
  have hsheet : t.name ++ e ≠ "tokens.css" := ht.append_ne rfl (by decide) e
  rw [ConvertOptions.sharedPaths, List.mem_cons, componentPath_inj, not_or]
  refine ⟨hindex,?_⟩
  rw [List.mem_map]
  rintro ⟨f,hf,hpath⟩
  rw [Option.mem_toList] at hf
  obtain ⟨-,g,hg,hgpath⟩ | ⟨-,hgpath⟩ := themeFile_cases o o.tokenTable
  · rw [hf] at hg
    cases hg
    rw [hgpath, ConvertOptions.componentPath, path_inj (slash_notMem_indexFile o) hfile] at hpath
    exact hindex hpath.2.symm
  · rw [hgpath f hf, ConvertOptions.componentPath, path_inj (by decide) hfile] at hpath
    exact hsheet hpath.2.symm

theorem nodup_paths_iff (hc : convert o d = .ok out) :
    (out.files.map (·.path)).Nodup ↔ (o.SharesThemeFolder → out.components = []) := by
  obtain ⟨hn,hnames⟩ := nodup_nameTargets [] (targetNodes o d).1
  have hall := nodup_paths_components (o := o) (d := d) hn (fun t ht => (hnames t ht).1)
    (FromDesign.registryOf d)
  rw [paths_of_convert hc]
  by_cases hempty : out.components = []
  · rw [hempty, List.isEmpty_nil, if_pos rfl, List.append_nil]
    exact iff_of_true hall fun _ => rfl
  · rw [if_neg (by simpa using hempty), List.nodup_append', and_iff_right hall, nodup_sharedPaths,
      imp_iff_not hempty]
    refine and_iff_left fun path hpath => ?_
    obtain ⟨t,ht,hpath⟩ := List.mem_flatMap.mp hpath
    exact sharedPaths_disjoint (hnames t ht).1 hpath

/-- The files of a run have different paths, so that each is kept when they are written, unless the
theme is a script and the folder of components is called like that of the theme. -/
theorem paths_distinct (hc : convert o d = .ok out) :
    ((out.files.map (·.path)).Nodup ↔ (o.SharesThemeFolder → out.components = [])) ∧
    (¬ o.SharesThemeFolder → ∀ f ∈ out.files, (applyUpdates MemoryStore.empty
      (out.files.map fun f => (f.path,f.content))).1.get? f.path = some f.content) := by
  refine ⟨nodup_paths_iff hc,fun ho f hf => ?_⟩
  have hn := (nodup_paths_iff hc).mpr fun h => absurd h ho
  have hpair : (f.path,f.content) ∈ out.files.map fun f => (f.path,f.content) :=
    List.mem_map_of_mem (f := fun f : GeneratedFile => (f.path,f.content)) hf
  rw [MemoryStore.get?_applyUpdates_of_mem (f := (f.path,f.content)) (by rwa [List.map_map]) hpair]
  rfl

end

/-- A themed project whose folder of components lies beside that of the theme. -/
theorem paths_distinct_beside_theme :
    let d : Document := .ofRoot ⟨Document.Attributes.bare "0" "Badge" .component,[]⟩
    let o : ConvertOptions := { ConvertOptions.standard with
      backend := .styledComponents, themed := true, componentsDir := "src/ui/" }
    o.isValid = true ∧ ∃ out, convert o d = .ok out ∧
      out.files.map (·.path) = ["src/ui/Badge.tsx","src/ui/Badge.types.ts","src/ui/index.ts",
        "src/theme/index.ts"] ∧
      (out.files.map (·.path)).Nodup := by
  intro d o
  have hpaths : (convert o d).toOption.map (fun out => out.files.map (·.path)) =
      some ["src/ui/Badge.tsx","src/ui/Badge.types.ts","src/ui/index.ts","src/theme/index.ts"] := by
    decide +kernel
  refine ⟨by decide +kernel,?_⟩
  cases hc : convert o d with
  | error e =>
    rw [hc] at hpaths
    contradiction
  | ok out =>
    rw [hc] at hpaths
    have hshares : ¬ o.SharesThemeFolder := by decide +kernel
    exact ⟨out,rfl,Option.some.inj hpaths,(paths_distinct hc).1.mpr fun h => absurd h hshares⟩

/-- Where the components are in the folder `theme`, the index of the theme and that of the
components have one path. -/
theorem components_in_theme_folder :
    let d : Document := .ofRoot ⟨Document.Attributes.bare "0" "Badge" .component,[]⟩
    let o : ConvertOptions := { ConvertOptions.standard with
      backend := .styledComponents, themed := true, componentsDir := "theme" }
    o.isValid = true ∧ ∃ out, convert o d = .ok out ∧
      out.files.map (·.path) = ["theme/Badge.tsx","theme/Badge.types.ts","theme/index.ts",
        "theme/index.ts"] ∧
      ¬ (out.files.map (·.path)).Nodup := by
  intro d o
  have hpaths : (convert o d).toOption.map (fun out => out.files.map (·.path)) =
      some ["theme/Badge.tsx","theme/Badge.types.ts","theme/index.ts","theme/index.ts"] := by
    decide +kernel
  refine ⟨by decide +kernel,?_⟩
  cases hc : convert o d with
  | error e =>
    rw [hc] at hpaths
    contradiction
  | ok out =>
    rw [hc] at hpaths
    have hlist : out.files.map (·.path) = _ := Option.some.inj hpaths
    refine ⟨out,rfl,hlist,?_⟩
    rw [hlist]
    decide

end DesignCompiler.Project
