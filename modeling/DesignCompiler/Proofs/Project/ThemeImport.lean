import DesignCompiler.Proofs.Output.Locations
import DesignCompiler.Proofs.Project.Paths
import DesignCompiler.Proofs.Project.References

/-! The imports of the theme. They lead to the file of the theme, unless the last name of the folder
of components is not a name of its own: then there is no folder beside it. -/
namespace DesignCompiler.Project
open Styling Output

/-! ## Where imports lead -/

/-- The source of an import: what stands between its quotes. -/
def importSource? (line : String) : Option String :=
  (Text.cutAt '\'' line.toList).bind fun (_,quoted) =>
    (Text.cutAt '\'' quoted).map fun (source,_) => String.ofList source

/-- The path that the source of an import stands for in a file: it starts at the folder of the file.
-/
def importedPath (file source : String) : String :=
  String.ofList (Text.dropEndWhile (!ConvertOptions.isSlash ·) file.toList) ++ source

namespace ConvertOptions
variable (o : ConvertOptions)

/-- The file that a source names: a style sheet itself, a folder its index. -/
def sourceFile (source : String) : String :=
  if ".css".toList.isSuffixOf source.toList then source else source ++ "/index." ++ o.moduleExt

/-- How the components name the theme beside their folder. -/
def themeSource : String := if o.backend = .cssModules then "../theme/tokens.css" else "../theme"

/-- The path of the folder of components before its last name. -/
def parentDir : List Char :=
  Text.dropEndWhile (!isSlash ·) (Text.dropEndWhile isSlash o.componentsDir.toList)

/-- There is a folder beside the folder of components: it has a name of its own, or lies at the top.
-/
def HasSiblings : Prop :=
  Location.IsOrdinary (lastName (Text.dropEndWhile isSlash o.componentsDir.toList)) ∨
    (Location.ofPath o.parentDir).IsTop

instance : Decidable o.HasSiblings := inferInstanceAs (Decidable (_ ∨ _))

end ConvertOptions

/-! ## Folders -/

section
open ConvertOptions Location
variable {cs name rest : List Char}

/-- A path before its last name is empty or ends in a slash. -/
lemma dropEndWhile_cases (cs : List Char) :
    Text.dropEndWhile (!isSlash ·) cs = [] ∨
      ∃ folder, Text.dropEndWhile (!isSlash ·) cs = folder ++ ['/'] := by
  unfold Text.dropEndWhile
  cases hd : cs.reverse.dropWhile (!isSlash ·) with
  | nil => exact .inl rfl
  | cons c rest =>
    have hc := List.head?_dropWhile_not (!isSlash ·) cs.reverse
    rw [hd] at hc
    have hslash : c = '/' := by simpa [isSlash] using hc
    exact .inr ⟨rest.reverse,by rw [List.reverse_cons, hslash]⟩

lemma dropEndWhile_append_slash (folder : List Char) (h : '/' ∉ name) :
    Text.dropEndWhile (!isSlash ·) (folder ++ '/' :: name) = folder ++ ['/'] := by
  have hpass : ∀ c ∈ name.reverse, (!isSlash c) = true := by
    intro c hc
    have hne : c ≠ '/' := fun he => h (he ▸ List.mem_reverse.mp hc)
    simp [isSlash, hne]
  rw [Text.dropEndWhile, List.reverse_append, List.reverse_cons, List.append_assoc,
    List.dropWhile_append_of_pos hpass]
  simp [isSlash]

lemma slash_notMem_lastName (cs : List Char) : '/' ∉ lastName cs := by
  intro h
  have hslash := List.all_eq_true.mp List.all_takeWhile _ (List.mem_reverse.mp h)
  simp [isSlash] at hslash

/-- What stands in the folder before a last name is found from there. -/
lemma ofPath_parent_append (hrest : rest.head? ≠ some '/') :
    ofPath (Text.dropEndWhile (!isSlash ·) cs ++ rest) =
      (ofPath (Text.dropEndWhile (!isSlash ·) cs)).follow rest := by
  obtain hnil | ⟨folder,hfolder⟩ := dropEndWhile_cases cs
  · rw [hnil, List.nil_append, ofPath, beq_eq_false_iff_ne.mpr hrest]
    rfl
  · rw [hfolder, List.append_assoc, List.singleton_append, ofPath_append_slash]

/-- A path leads to its last name in the folder before. -/
lemma ofPath_eq_enter (cs : List Char) :
    ofPath cs = (ofPath (Text.dropEndWhile (!isSlash ·) cs)).enter (lastName cs) := by
  have hslash := slash_notMem_lastName cs
  have hhead : (lastName cs).head? ≠ some '/' := fun h => hslash (List.mem_of_head? h)
  conv_lhs => rw [← dropEndWhile_append_lastName cs]
  rw [ofPath_parent_append hhead, follow_of_notMem hslash]

end

/-! ## The theme -/

section
open ConvertOptions Location
variable {o : ConvertOptions} {d : Document} {out : ConversionOutput} {f g : GeneratedFile}

/-- The theme is the file that its source names, in the folder of the theme. -/
lemma exists_path_themeFile {table : Tokens.TokenTable} (hg : themeFile o table = some g) :
    ∃ file : String, '/' ∉ file.toList ∧ IsOrdinary file.toList ∧
      g.path = o.themeDir ++ "/" ++ file ∧ o.sourceFile o.themeSource = "../theme/" ++ file := by
  have hindex : '/' ∉ ("index." ++ o.moduleExt).toList ∧
      IsOrdinary ("index." ++ o.moduleExt).toList := by
    unfold moduleExt
    split <;> decide
  have hpath : o.themeDir ++ "/index." ++ o.moduleExt =
      o.themeDir ++ "/" ++ ("index." ++ o.moduleExt) := by
    rw [String.append_assoc, String.append_assoc]
    rfl
  have hsource : "../theme" ++ "/index." ++ o.moduleExt =
      "../theme/" ++ ("index." ++ o.moduleExt) := by
    rw [String.append_assoc]
    rfl
  unfold themeFile at hg
  split at hg
  · cases hb : o.backend <;> rw [hb] at hg <;> cases hg
    case isTrue.cssModules.refl =>
      refine ⟨"tokens.css",by decide,by decide,by rw [String.append_assoc]; rfl,?_⟩
      rw [themeSource, hb]
      rfl
    all_goals
      refine ⟨_,hindex.1,hindex.2,hpath,?_⟩
      rw [themeSource, hb]
      exact hsource
  · contradiction

lemma slash_notMem_theme : '/' ∉ "theme".toList := by decide

/-- The theme lies in a folder beside the parts of the path of the folder of components. -/
lemma ofPath_theme {file : String} (hfile : '/' ∉ file.toList) :
    ofPath (o.themeDir ++ "/" ++ file).toList =
      ((ofPath o.parentDir).enter "theme".toList).enter file.toList := by
  have hpath : (o.themeDir ++ "/" ++ file).toList =
      o.parentDir ++ ("theme".toList ++ '/' :: file.toList) := by
    rw [String.toList_append, String.toList_append, toList_themeDir, List.append_assoc,
      List.append_assoc]
    rfl
  rw [hpath, parentDir, ofPath_parent_append (by exact nofun), follow_append_slash,
    follow_of_notMem slash_notMem_theme, follow_of_notMem hfile]

/-- The source of the theme leads out of the folder of components. -/
lemma ofPath_imported {name file : String} (hname : '/' ∉ name.toList) (hfile : '/' ∉ file.toList) :
    ofPath (importedPath (o.componentPath name) ("../theme/" ++ file)).toList =
      ((ofPath (Text.dropEndWhile isSlash o.componentsDir.toList ++ ['/'])).up.enter
        "theme".toList).enter file.toList := by
  have hpath : (o.componentPath name).toList =
      Text.dropEndWhile isSlash o.componentsDir.toList ++ '/' :: name.toList := by
    rw [componentPath, withoutFinalSlashes, String.toList_append, String.toList_append,
      String.toList_ofList, List.append_assoc]
    rfl
  have hsource : ("../theme/" ++ file).toList =
      ['.','.'] ++ '/' :: ("theme".toList ++ '/' :: file.toList) := by
    rw [String.toList_append]
    rfl
  have hdots : '/' ∉ ['.','.'] := by decide
  rw [importedPath, String.toList_append, String.toList_ofList, hpath,
    dropEndWhile_append_slash _ hname, hsource, List.append_assoc, List.singleton_append,
    ofPath_append_slash, follow_append_slash, follow_append_slash, follow_of_notMem hdots,
    enter_dots, follow_of_notMem slash_notMem_theme, follow_of_notMem hfile]

/-- Leaving the folder of components leads to where the theme is, if there is a folder beside it. -/
lemma up_ofPath_componentsDir :
    (ofPath (Text.dropEndWhile isSlash o.componentsDir.toList ++ ['/'])).up = ofPath o.parentDir ↔
      o.HasSiblings := by
  unfold HasSiblings parentDir
  generalize Text.dropEndWhile isSlash o.componentsDir.toList = dir
  by_cases hdir : dir = []
  · subst hdir
    decide
  · rw [ofPath_folder hdir, ofPath_eq_enter dir, up_enter_eq_iff]

/-- The theme is where the imports of components say, if there is a folder beside that of the
components. -/
lemma ofPath_theme_eq_iff {table : Tokens.TokenTable} {name : String}
    (hg : themeFile o table = some g) (hname : '/' ∉ name.toList) :
    ofPath g.path.toList =
        ofPath (importedPath (o.componentPath name) (o.sourceFile o.themeSource)).toList ↔
      o.HasSiblings := by
  obtain ⟨file,hslash,hordinary,hpath,hsource⟩ := exists_path_themeFile hg
  rw [hpath, hsource, ofPath_theme hslash, ofPath_imported hname hslash, enter_inj hordinary,
    enter_inj (by decide), eq_comm, up_ofPath_componentsDir]

lemma slash_notMem_componentFile {name : String} (hn : Naming.IsComponentName name) :
    '/' ∉ (name ++ "." ++ o.componentExt).toList := by
  have hext : '/' ∉ ("." ++ o.componentExt).toList := by
    unfold componentExt
    split <;> decide
  rw [String.append_assoc, String.toList_append, List.mem_append, not_or]
  exact ⟨hn.notMem (by decide) (by decide),hext⟩

/-- Every import of the theme stands in the file of a component, with the source of the theme. -/
lemma imports_theme {t : Target} (ho : o.themed = true) {line : String}
    (hline : line ∈ o.backend.themeImports) :
    line ∈ (t.preamble o d).imports ∧ importSource? line = some o.themeSource := by
  have hplain : Text.contains line ".module.css" = false ∧ isPragma line = false ∧
      importSource? line = some o.themeSource := by
    unfold themeSource
    generalize o.backend = b at hline
    revert line
    cases b <;> decide
  obtain ⟨hsheet,hpragma,hsource⟩ := hplain
  refine ⟨?_,hsource⟩
  have hstyle : line ∈ t.styleLines o d := by
    refine List.mem_filter.mpr ⟨List.mem_append_right _ ?_,by simp [hsheet]⟩
    change line ∈ if o.themed then o.backend.themeImports else []
    rwa [if_pos ho]
  have hfilter : line ∈ (t.styleLines o d).filter (!isPragma ·) :=
    List.mem_filter.mpr ⟨hstyle,by rw [hpragma]; rfl⟩
  simp only [Target.preamble, importLines, List.mem_append]
  exact .inl (.inl (.inl (.inr hfilter)))

/-- In a themed project the imports of the theme in every component's file lead to the file of the
theme just when there is a folder beside that of the components: when the last name of its path is
not `.` or `..`, nor missing as in a path of slashes only, or what stands before that name leads to
the top of all folders. -/
theorem theme_import_resolves_iff (hc : convert o d = .ok out) (hf : f ∈ out.files)
    (hfk : f.kind = .component) (hg : g ∈ out.files) (hgk : g.kind = .theme) :
    (∃ t ∈ nameTargets [] (targetNodes o d).1,
      f.content = (t.preamble o d).fileText o (t.built o d).2 ∧
      ∀ line ∈ o.backend.themeImports,
        line ∈ (t.preamble o d).imports ∧ importSource? line = some o.themeSource) ∧
    (ofPath g.path.toList = ofPath (importedPath f.path (o.sourceFile o.themeSource)).toList ↔
      o.HasSiblings) := by
  have htheme := themeFile_of_kind hc hg hgk
  have hthemed : o.themed = true := by
    by_contra h
    rw [themeFile, if_neg h] at htheme
    contradiction
  obtain ⟨t,ht,hpath,hcontent⟩ := exists_target_of_component hc hf hfk
  have hname := slash_notMem_componentFile (o := o) ((nodup_nameTargets [] _).2 t ht).1
  refine ⟨⟨t,ht,hcontent,fun line hline => imports_theme hthemed hline⟩,?_⟩
  rw [hpath]
  exact ofPath_theme_eq_iff htheme hname

end

/-- Whether two files of a run are those of the component and the theme with given paths. -/
lemma exists_files {o : ConvertOptions} {d : Document} (path path' : String)
    (h : ((convert o d).toOption.any fun out =>
      out.files.any (fun f => f.kind == .component && f.path == path) &&
      out.files.any fun g => g.kind == .theme && g.path == path') = true) :
    ∃ out, convert o d = .ok out ∧ ∃ f ∈ out.files, ∃ g ∈ out.files,
      f.kind = .component ∧ g.kind = .theme ∧ f.path = path ∧ g.path = path' := by
  cases hc : convert o d with
  | error e =>
    rw [hc] at h
    contradiction
  | ok out =>
    rw [hc] at h
    change (_ && _) = true at h
    simp only [Bool.and_eq_true, List.any_eq_true, beq_iff_eq] at h
    obtain ⟨⟨f,hf,hfk,hfp⟩,g,hg,hgk,hgp⟩ := h
    exact ⟨out,rfl,f,hf,g,hg,hfk,hgk,hfp,hgp⟩

/-- A component two folders deep imports the theme. -/
theorem theme_import_resolves_iff_nested :
    let d : Document := .ofRoot ⟨Document.Attributes.bare "0" "Badge" .component,[]⟩
    let o : ConvertOptions := { ConvertOptions.standard with
      backend := .cssModules, themed := true, componentsDir := "src/./ui//" }
    o.isValid = true ∧ o.HasSiblings ∧ ∃ out, convert o d = .ok out ∧
      ∃ f ∈ out.files, ∃ g ∈ out.files, f.kind = .component ∧ g.kind = .theme ∧
        f.path = "src/./ui/Badge.tsx" ∧ g.path = "src/./theme/tokens.css" ∧
        (∃ t ∈ nameTargets [] (targetNodes o d).1,
          f.content = (t.preamble o d).fileText o (t.built o d).2 ∧
          "import '../theme/tokens.css';" ∈ (t.preamble o d).imports) ∧
        Location.ofPath g.path.toList =
          Location.ofPath (importedPath f.path "../theme/tokens.css").toList := by
  intro d o
  have ho : o.HasSiblings := by decide +kernel
  obtain ⟨out,hc,f,hf,g,hg,hfk,hgk,hfp,hgp⟩ := exists_files (o := o) (d := d)
    "src/./ui/Badge.tsx" "src/./theme/tokens.css" (by decide +kernel)
  obtain ⟨⟨t,ht,hcontent,himports⟩,hplace⟩ := theme_import_resolves_iff hc hf hfk hg hgk
  have hsource : o.sourceFile o.themeSource = "../theme/tokens.css" := by decide +kernel
  have himport : "import '../theme/tokens.css';" ∈ (t.preamble o d).imports :=
    (himports "import '../theme/tokens.css';" (List.mem_singleton_self _)).1
  rw [hsource] at hplace
  exact ⟨by decide +kernel,ho,out,hc,f,hf,g,hg,hfk,hgk,hfp,hgp,⟨t,ht,hcontent,himport⟩,
    hplace.mpr ho⟩

/-- Where the folder of components is written with a point at its end, the theme is put into it, and
the import leads to the folder around it. -/
theorem theme_inside_components :
    let d : Document := .ofRoot ⟨Document.Attributes.bare "0" "Badge" .component,[]⟩
    let o : ConvertOptions := { ConvertOptions.standard with
      backend := .cssModules, themed := true, componentsDir := "src/ui/." }
    o.isValid = true ∧ ∃ out, convert o d = .ok out ∧
      ∃ f ∈ out.files, ∃ g ∈ out.files, f.kind = .component ∧ g.kind = .theme ∧
        f.path = "src/ui/./Badge.tsx" ∧ g.path = "src/ui/theme/tokens.css" ∧
        Location.ofPath g.path.toList ≠
          Location.ofPath (importedPath f.path "../theme/tokens.css").toList := by
  intro d o
  obtain ⟨out,hc,f,hf,g,hg,hfk,hgk,hfp,hgp⟩ := exists_files (o := o) (d := d)
    "src/ui/./Badge.tsx" "src/ui/theme/tokens.css" (by decide +kernel)
  refine ⟨by decide +kernel,out,hc,f,hf,g,hg,hfk,hgk,hfp,hgp,?_⟩
  rw [hfp, hgp]
  decide +kernel

end DesignCompiler.Project
