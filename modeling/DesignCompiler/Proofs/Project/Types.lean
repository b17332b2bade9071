import DesignCompiler.Proofs.FromDesign.Looks
import DesignCompiler.Proofs.Markup.Building
import DesignCompiler.Proofs.Markup.Collections
import DesignCompiler.Proofs.Project.Exports
import DesignCompiler.Proofs.Script.Literals
import DesignCompiler.Proofs.Script.Styles

/-! Types in scripts of a project that has none. The imports, the parameters and the definitions of
a component are read, and the files that all components share, each with the texts that stand in it
as they are. -/
namespace DesignCompiler.Project
open Document FromDesign Naming Text Tokens Styling Markup Output Script

section
variable {s name file : String} {fs : List Frame}

lemma isIdentifierChar_of_isNameChar (hs : ∀ c ∈ s.toList, IsNameChar c) :
    ∀ c ∈ s.toList, isIdentifierChar c = true := by
  intro c hc
  obtain h | rfl := hs c hc
  · rw [isIdentifierChar, h]
    rfl
  · rfl

lemma free_of_isNameChar {marks : List Char} (hm : ∀ c ∈ marks, ¬ IsNameChar c)
    (hs : ∀ c ∈ s.toList, IsNameChar c) : Free marks s :=
  fun c hc hmark => hm c hmark (hs c hc)

/-! ## Imports -/

/-- The name that an import binds stands between two words. -/
lemma passes_importName {w : List Char} (hw : w ≠ []) (htype : w ≠ "type".toList)
    (hinterface : w ≠ "interface".toList) :
    Passes ⟨[],["import".toList],w⟩ " from '" ⟨[.quote '\''],[],[]⟩ := by
  obtain ⟨c,cs,rfl⟩ := List.exists_cons_of_ne_nil hw
  have hwords : haveTypeWords ["import".toList,c :: cs,"from".toList] = false := by
    have hfrom : ("from".toList == "type".toList) = false := by decide
    simp only [haveTypeWords, areTypeWords, beq_eq_false_iff_ne.mpr htype,
      beq_eq_false_iff_ne.mpr hinterface, hfrom, Bool.and_false]
    rfl
  refine ⟨rfl,?_⟩
  change ∀ t ∈ [Token.words ["import".toList,c :: cs,"from".toList],.literal], _
  simp only [List.forall_mem_cons]
  exact ⟨hwords,rfl,List.forall_mem_nil _⟩

/-- The place from which a name is imported stands in quotes at the end of the line. -/
lemma passes_source (hfile : Free quoteMarks file) :
    Passes ⟨[.quote '\''],[],[]⟩ (file ++ "';") Place.start := by
  have hend : Passes ⟨[.quote '\''],[],[]⟩ "';" Place.start := passes_of_read rfl rfl
  exact (passes_quoted hfile).append hend

lemma reads_importDefault (hname : IsComponentName name) (hfile : Free quoteMarks file) :
    Reads [] ("import " ++ name ++ " from '" ++ file ++ "';") := by
  have himport : Passes Place.start "import " ⟨[],["import".toList],[]⟩ := passes_of_read rfl rfl
  have hword : Passes ⟨[],["import".toList],[]⟩ name ⟨[],["import".toList],name.toList⟩ :=
    passes_word rfl (isIdentifierChar_of_isNameChar hname.isNameChar)
  -- a name that begins with a capital is no word for types
  have hne : ∀ c cs, c.isUpper = false → name.toList ≠ c :: cs := by
    obtain ⟨a,as,hs,ha,-⟩ := hname
    intro c cs hc he
    obtain ⟨rfl,-⟩ := List.cons.inj (hs.symm.trans he)
    rw [ha] at hc
    contradiction
  have hnil : name.toList ≠ [] := by
    obtain ⟨a,as,hs,-⟩ := hname
    rw [hs]
    exact List.cons_ne_nil a as
  have hfrom := passes_importName hnil (hne _ _ (by decide)) (hne _ _ (by decide))
  have hall := ((himport.append hword).append hfrom).append (passes_source hfile)
  rw [← String.append_assoc] at hall
  exact hall.reads

lemma reads_importNamed (hname : ∀ c ∈ name.toList, IsNameChar c) (hfile : Free quoteMarks file) :
    Reads [] ("import \x7b " ++ name ++ " \x7d from '" ++ file ++ "';") := by
  have hopen : Passes Place.start "import \x7b " ⟨[.curly],[],[]⟩ := passes_of_read rfl rfl
  have hfrom : Passes ⟨[.curly],[],[]⟩ " \x7d from '" ⟨[.quote '\''],[],[]⟩ :=
    passes_of_read rfl rfl
  have hword : Reads [.curly] name := reads_word rfl (isIdentifierChar_of_isNameChar hname)
  have hall := (hopen.append (hword.passes rfl (by decide) hfrom)).append (passes_source hfile)
  simp only [String.append_assoc] at hall ⊢
  exact hall.reads

end

/-- The line that imports the type of a theme. -/
def themeTypeImport : String := "import type \x7b Theme \x7d from '../theme';"

/-- Whether the scripts of a project refer to the type of its theme. -/
def ConvertOptions.namesTheme (o : ConvertOptions) : Prop := o.themed = true ∧ o.backend = .emotion

/-- The texts of asset addresses, which stand in quotes as they are, neither end the quoted text nor
hide its end. -/
structure AssetsFit (o : ConvertOptions) : Prop where
  base : Free quoteMarks o.assetBase
  files : ∀ a ∈ o.assets, Free quoteMarks a.2

/-- The texts of tokens and of the design, which stand in templates as they are, end neither the
template nor what is quoted in it, lead to no code, and hide no end. -/
structure StylesFit (o : ConvertOptions) (d : Document) : Prop where
  tokens : ∀ s ∈ o.tokenTable.rawTexts, Free literalMarks s
  styles : ∀ s ∈ d.styleTexts, Free templateMarks s

/-- The lines for a scheme have types only if they import that of the theme. -/
lemma not_hasTypes_of_mem_styleImports {s : Scheme}
    (hs : ¬ (s.themed = true ∧ s.backend = .emotion)) {p : Progress}
    (hp : IsComponentName p.component) : ∀ l ∈ styleImports s p, ¬ HasTypes l := by
  have htokens : ¬ HasTypes "import '../theme/tokens.css';" := by decide +kernel
  have hstyled : ¬ HasTypes "import styled from 'styled-components';" := by decide +kernel
  have hlibrary : ∀ l ∈ ["/** @jsxImportSource @emotion/react */",
      "import \x7b css \x7d from '@emotion/react';"], ¬ HasTypes l := by decide +kernel
  have hsheet : ¬ HasTypes ("import styles from './" ++ styleSheetFile p.component ++ "';") := by
    have hopen : Passes Place.start "import styles from './" ⟨[.quote '\''],[],[]⟩ :=
      passes_of_read rfl rfl
    have hfile : Free quoteMarks (styleSheetFile p.component) :=
      free_append.mpr ⟨free_of_isNameChar (by decide) hp.isNameChar,by decide⟩
    have hall := hopen.append (passes_source hfile)
    rw [← String.append_assoc] at hall
    exact not_hasTypes_of_reads hall.reads
  obtain ⟨b,themed,tokens⟩ := s
  unfold styleImports
  cases b with
  | tailwind => cases themed <;> exact List.forall_mem_nil _
  | cssModules => cases themed <;> simp [Backend.themeImports, hsheet, htokens]
  | styledComponents => cases themed <;> simp [Backend.themeImports, hstyled]
  | emotion =>
    cases themed with
    | false => exact hlibrary
    | true => exact absurd ⟨rfl,rfl⟩ hs

section
variable {o : ConvertOptions} {d : Document} {t : Target}

lemma not_hasTypes_componentLine {c : String} (hc : IsComponentName c) :
    ¬ HasTypes ("import \x7b " ++ c ++ " \x7d from './" ++ c ++ "';") := by
  have hfile : Free quoteMarks ("./" ++ c) :=
    free_append.mpr ⟨by decide,free_of_isNameChar (by decide) hc.isNameChar⟩
  have hreads := reads_importNamed hc.isNameChar hfile
  have hsplit : " \x7d from './" = " \x7d from '" ++ "./" := rfl
  rw [hsplit]
  simp only [String.append_assoc] at hreads ⊢
  exact not_hasTypes_of_reads hreads

lemma not_hasTypes_iconLine (hfit : AssetsFit o) {e : Element} {i : IconImport}
    (hi : i ∈ iconUses o e) : ¬ HasTypes ("import " ++ i.ident ++ " from '" ++ i.url ++ "';") := by
  obtain ⟨name,a,ha,rfl⟩ := exists_of_mem_iconUses hi
  refine not_hasTypes_of_reads (reads_importDefault (isComponentName_iconIdentifier name) ?_)
  intro c hc hmark
  obtain hc | rfl | hc := mem_assetUrl hc
  · exact hfit.base c hc hmark
  · exact absurd hmark (by decide)
  · exact hfit.files a ha c hc hmark

/-- A project that names its theme imports the type in every component. -/
lemma themeTypeImport_mem (htheme : o.namesTheme) :
    themeTypeImport ∈ (t.preamble o d).imports := by
  obtain ⟨hthemed,hb⟩ := htheme
  have hmem : themeTypeImport ∈ styleImports (Target.setting o d).scheme (t.sheet o d).1 := by
    simp only [styleImports, Target.setting, hthemed, hb, if_true]
    exact List.mem_append_right _ (List.mem_singleton_self _)
  have hkept : ((t.sheet o d).2.isSome || !Text.contains themeTypeImport ".module.css") =
      true := by
    have hfalse : Text.contains themeTypeImport ".module.css" = false := by decide +kernel
    rw [hfalse, Bool.not_false, Bool.or_true]
  have hplain : (!isPragma themeTypeImport) = true := by decide
  have hline : themeTypeImport ∈ (t.styleLines o d).filter (!isPragma ·) :=
    List.mem_filter.mpr ⟨List.mem_filter.mpr ⟨hmem,hkept⟩,hplain⟩
  simp only [Target.preamble, importLines, List.mem_append]
  exact .inl (.inl (.inl (.inr hline)))

/-- Without types of its own, a component imports a type exactly if the project names its theme. -/
theorem exists_hasTypes_imports_iff (hts : o.typescript = false) (hfit : AssetsFit o)
    (ht : IsComponentName t.name) :
    (∃ line ∈ (t.preamble o d).imports, HasTypes line) ↔ o.namesTheme := by
  constructor
  · rintro ⟨line,hline,htypes⟩
    by_contra htheme
    have hcomponent : IsComponentName (t.sheet o d).1.component := (component_sheet o d t).symm ▸ ht
    have hstyle : ∀ l ∈ t.styleLines o d, ¬ HasTypes l := fun l hl =>
      not_hasTypes_of_mem_styleImports (s := (Target.setting o d).scheme) htheme hcomponent l
        (List.mem_filter.mp hl).1
    have hreact : ¬ HasTypes "import React from 'react';" := by decide +kernel
    simp only [Target.preamble, importLines, hts, Bool.false_eq_true, if_false, List.append_nil,
      List.mem_append, List.mem_map, List.mem_filter, List.mem_singleton] at hline
    obtain (((hline | rfl) | hline) | ⟨c,hc,rfl⟩) | ⟨i,hi,rfl⟩ := hline
    · exact hstyle line hline.1 htypes
    · exact hreact htypes
    · exact hstyle line hline.1 htypes
    · exact not_hasTypes_componentLine (isComponentName_of_mem_components hc).1 htypes
    · rw [Target.built, icons_build] at hi
      exact not_hasTypes_iconLine hfit (mem_of_mem_firstByKey hi) htypes
  · exact fun htheme => ⟨themeTypeImport,themeTypeImport_mem htheme,by decide +kernel⟩

/-! ## Parameters -/

/-- A prop among the parameters is code without types, with its default. -/
lemma reads_paramText {p : PropDef} (hp : Worded p) : Reads [.curly,.round] (paramText p) := by
  have hname : Reads [.curly,.round] p.name :=
    reads_word rfl (isIdentifierChar_of_isNameChar hp.name)
  have hequals : Passes ⟨[.curly,.round],[],[]⟩ " = " ⟨[.curly,.round],[],[]⟩ :=
    passes_of_read rfl rfl
  have hvalue : ∀ v ∈ defaultText p, Reads [.curly,.round] v := by
    intro v hv
    unfold defaultText at hv
    split at hv
    · nomatch hv
    · next hk =>
      obtain rfl | rfl := hp.truth hk v hv
      · exact (reads_word rfl (by decide) : Reads [.curly,.round] "true")
      · exact (reads_word rfl (by decide) : Reads [.curly,.round] "false")
    all_goals
      obtain ⟨w,-,rfl⟩ := Option.map_eq_some_iff.mp hv
      exact (passes_scriptString rfl w).reads
  unfold paramText
  split
  · next v hv => exact hname.append rfl (by decide) hequals (hvalue v hv)
  · exact hname

lemma isNameChar_collection {c : Collection} (hc : c ∈ (t.built o d).2.collections) :
    ∀ x ∈ c.name.toList, IsNameChar x := by
  have hmem : c.name ∈ (t.built o d).2.collections.map (·.name) := List.mem_map_of_mem hc
  rw [Target.built, names_collections_build] at hmem
  obtain ⟨w,hw,before,hname⟩ := exists_of_mem_freshNames hmem
  obtain ⟨number,hfresh,hdigits⟩ := exists_fresh_eq_append before w
  have hwanted : ∀ x ∈ w.toList, IsNameChar x := by
    obtain ⟨h,rfl⟩ := exists_of_mem_wanted hw
    rw [collectionName, String.toList_append]
    exact List.forall_mem_append.mpr ⟨(isCamelName_identifier _).isNameChar,by decide⟩
  rw [hname, hfresh, String.toList_append]
  exact List.forall_mem_append.mpr ⟨hwanted,fun x hx => isNameChar_of_isDigit (hdigits x hx)⟩

/-- A collection among the parameters is code without types. The colon in its default stands in
curly brackets. -/
lemma reads_collectionParam {c : Collection} (hc : ∀ x ∈ c.name.toList, IsNameChar x) :
    Reads [.curly,.round] (collectionParam c) := by
  have hname : Reads [.curly,.round] c.name :=
    reads_word rfl (isIdentifierChar_of_isNameChar hc)
  have hopen : Passes ⟨[.curly,.round],[],[]⟩ " = Array.from(\x7b length: "
      ⟨[.curly,.round,.curly,.round],[],[]⟩ := passes_of_read rfl rfl
  have hcount : Reads [.curly,.round,.curly,.round] (toString c.count) :=
    reads_number rfl (.natural c.count)
  have hclose : Passes ⟨[.curly,.round,.curly,.round],[],[]⟩ " \x7d)" ⟨[.curly,.round],[],[]⟩ :=
    passes_of_read rfl rfl
  have hall := (hname.passes rfl (by decide) hopen).append (hcount.passes rfl (by decide) hclose)
  simp only [collectionParam, String.append_assoc] at hall ⊢
  exact hall.reads

/-- Without types of its own, a component has parameters without types, whatever its props are. -/
theorem not_hasTypes_parametersText (hts : o.typescript = false) (name : String) :
    ¬ HasTypes ("(" ++ (t.preamble o d).parametersText o name ++ ")") := by
  have hparameters : ∀ s ∈ (t.preamble o d).parameters, Reads [.curly,.round] s :=
    List.forall_mem_append.mpr
      ⟨List.forall_mem_map.mpr fun p hp => reads_paramText (worded_props _ _ _ p hp),
        List.forall_mem_map.mpr fun c hc => reads_collectionParam (isNameChar_collection hc)⟩
  have hcomma : Passes ⟨[.curly,.round],[],[]⟩ ", " ⟨[.curly,.round],[],[]⟩ :=
    passes_of_read rfl rfl
  have hlist := Reads.intercalate rfl (by decide) hcomma hparameters
  unfold Preamble.parametersText
  rw [hts]
  split
  · decide +kernel
  · have hopen : Passes Place.start "(\x7b " ⟨[.curly,.round],[],[]⟩ := passes_of_read rfl rfl
    have hclose : Passes ⟨[.curly,.round],[],[]⟩ " \x7d)" Place.start := passes_of_read rfl rfl
    have hall := hopen.append (hlist.passes rfl (by decide) hclose)
    have hsplit : "(\x7b " = "(" ++ "\x7b " := rfl
    have hend : " \x7d)" = " \x7d" ++ ")" := rfl
    simp only [hsplit, hend, String.append_assoc, Bool.false_eq_true, if_false,
      String.empty_append] at hall ⊢
    exact not_hasTypes_of_reads hall.reads

/-! ## Definitions -/

/-- The texts of a target's styles fit into templates if those of the document do. -/
lemma free_rawTexts (hfit : StylesFit o d) (ht : t ∈ nameTargets [] (targetNodes o d).1)
    {h : ElementHead} (hh : h ∈ (t.tree d).walk) :
    ∀ s ∈ h.style.rawTexts, Free templateMarks s := by
  intro s hs
  have hlook := looksFrom_of_mem_walk (registryOf d) (some d.styles) t.node hh
  obtain ⟨c,hc,hs⟩ := List.mem_flatMap.mp (hlook.style hs)
  exact hfit.styles s (List.mem_flatMap.mpr
    ⟨c,Child.subtrees_subset (mem_subtrees_of_mem_nameTargets ht) hc,hs⟩)

/-- A definition has types exactly if the project names its theme. -/
theorem hasTypes_definition_iff (hfit : StylesFit o d)
    (ht : t ∈ nameTargets [] (targetNodes o d).1) {e : StyleDefinition}
    (he : e ∈ (t.preamble o d).definitions) : HasTypes e.source ↔ o.namesTheme := by
  obtain ⟨hname,-⟩ := (nodup_nameTargets [] _).2 t ht
  obtain ⟨-,-,hchars⟩ := (markupNames_built (o := o) (d := d) hname).definitions e he
  have hword := isIdentifierChar_of_isNameChar hchars.chars
  obtain ⟨h,hh,name,hdef⟩ := exists_use_of_mem_definitions he
  have hbody : ∀ {style : TokenStyle}, style ≠ .cssVar → Passes ⟨[.template],[],[]⟩
      (blockBody style "  " (declarations o.tokenTable h).1) ⟨[.template],[],[]⟩ :=
    fun hne => passes_blockBody hne hfit.tokens (free_rawTexts hfit ht hh)
  cases hb : o.backend with
  | tailwind | cssModules =>
    rw [hb] at hdef
    cases hdef
  | styledComponents =>
    have hsource : e.source = styledSource (if o.themed then .themeProps else .literal) e.name h.tag
        (declarations o.tokenTable h).1 := by
      rw [hb] at hdef
      cases hdef
      simp only [Scheme.source, Scheme.tokenStyle, Target.setting, hb]
      rfl
    have hne : (if o.themed then TokenStyle.themeProps else .literal) ≠ .cssVar := by
      split <;> decide
    refine iff_of_false ?_ fun htheme => absurd (hb.symm.trans htheme.2) (by decide)
    rw [hsource]
    exact not_hasTypes_of_reads (reads_styledSource hword (hbody hne)
      (isIdentifierChar_of_isNameChar
        (looksFrom_of_mem_walk (registryOf d) (some d.styles) t.node hh).tag))
  | emotion =>
    have hsource : e.source = objectSource (if o.themed then .themeScope else .literal) e.name
        (declarations o.tokenTable h).1 := by
      rw [hb] at hdef
      cases hdef
      simp only [Scheme.source, Scheme.tokenStyle, Target.setting, hb]
      rfl
    rw [hsource]
    cases hthemed : o.themed with
    | true => exact iff_of_true (hasTypes_objectSource hword rfl) ⟨hthemed,hb⟩
    | false =>
      refine iff_of_false ?_ fun htheme => absurd (hthemed.symm.trans htheme.1) (by decide)
      exact not_hasTypes_of_reads (reads_objectSource hword (hbody (by decide)) rfl)

/-! ## Shared files -/

/-- The header is a comment. -/
lemma passes_header (ho : ∀ s ∈ o.timestamp, OneLine s) :
    Passes Place.start (o.header ++ "\n") Place.start := by
  obtain ⟨rest,hrest⟩ : ∃ rest, o.header = "//" ++ rest := by
    unfold ConvertOptions.header
    rw [String.append_assoc]
    exact ⟨" @generated by canopy" ++ _,rfl⟩
  have hone : OneLine ("//" ++ rest) := hrest ▸ oneLine_header ho
  have hopen : Passes Place.start "//" ⟨[.line],[],[]⟩ := passes_of_read rfl rfl
  have hline : Passes ⟨[.line],[],[]⟩ rest ⟨[.line],[],[]⟩ :=
    passes_line (oneLine_append.mp hone).2
  have hend : Passes ⟨[.line],[],[]⟩ "\n" Place.start := passes_of_read rfl rfl
  rw [hrest]
  exact (hopen.append hline).append hend

/-- Without types of its own, a project exports none. -/
theorem not_hasTypes_indexFile (hts : o.typescript = false) (ho : ∀ s ∈ o.timestamp, OneLine s)
    {names : List String} (hnames : ∀ n ∈ names, IsComponentName n) :
    ¬ HasTypes (indexFile o names).content := by
  have hexport : ∀ n, IsComponentName n → Passes Place.start (exportText o n) Place.start := by
    intro n hn
    have hopen : Passes Place.start "export \x7b " ⟨[.curly],[],[]⟩ := passes_of_read rfl rfl
    have hfrom : Passes ⟨[.curly],[],[]⟩ " \x7d from './" ⟨[.quote '\''],[],[]⟩ :=
      passes_of_read rfl rfl
    have hend : Passes ⟨[.quote '\''],[],[]⟩ "';\n" Place.start := passes_of_read rfl rfl
    have hword : Reads [.curly] n := reads_word rfl (isIdentifierChar_of_isNameChar hn.isNameChar)
    have hfile : Free quoteMarks n := free_of_isNameChar (by decide) hn.isNameChar
    have hall := ((hopen.append (hword.passes rfl (by decide) hfrom)).append
      (passes_quoted hfile)).append hend
    simp only [exportText, hts, Bool.false_eq_true, if_false, String.append_empty,
      String.append_assoc] at hall ⊢
    exact hall
  rw [content_indexFile]
  refine not_hasTypes_of_reads ((passes_header ho).append (Passes.join ?_)).reads
  exact List.forall_mem_map.mpr fun n hn => hexport n (hnames n hn)

/-- The script of a theme without types is its tokens as a value. -/
theorem not_hasTypes_themeScript (hts : o.typescript = false)
    (ho : ∀ s ∈ o.timestamp, OneLine s) (table : TokenTable) :
    ¬ HasTypes (themeScript o table) := by
  have hopen : Passes Place.start "export const theme = " Place.start := passes_of_read rfl rfl
  have hend : Passes Place.start ";\n" Place.start := passes_of_read rfl rfl
  have hvalue : Reads [] (table.toJson.indented "") := reads_indented _ (by decide) rfl
  have hall := ((passes_header ho).append hopen).append (hvalue.passes rfl (by decide) hend)
  have hsplit : "\nexport const theme = " = "\n" ++ "export const theme = " := rfl
  simp only [themeScript, hsplit, hts, Bool.false_eq_true, if_false, String.append_empty,
    String.append_assoc] at hall ⊢
  exact not_hasTypes_of_reads hall.reads

/-! ## The files of a conversion -/

/-- Without types of its own, a project has types in its scripts exactly if it names its theme: then
every component imports the type of the theme, and each of its definitions says it of a parameter.
There are none in the parameters of components, in the file of exports or in the script of the
theme. Of the texts that stand in scripts as they are, it is asked that they fit in there. -/
theorem types_iff_namesTheme {out : ConversionOutput} (hc : convert o d = .ok out)
    (hts : o.typescript = false) :
    (∀ f ∈ out.files, f.kind = .component → ∃ t ∈ nameTargets [] (targetNodes o d).1,
      f.path = o.componentPath (t.name ++ ".jsx") ∧
      f.content = (t.preamble o d).fileText o (t.built o d).2 ∧
      (AssetsFit o → ((∃ line ∈ (t.preamble o d).imports, HasTypes line) ↔ o.namesTheme)) ∧
      ¬ HasTypes ("(" ++ (t.preamble o d).parametersText o t.name ++ ")") ∧
      (StylesFit o d →
        ∀ e ∈ (t.preamble o d).definitions, HasTypes e.source ↔ o.namesTheme)) ∧
    ((∀ s ∈ o.timestamp, OneLine s) →
      (∀ f ∈ out.files, f.kind = .index → ¬ HasTypes f.content) ∧
      ∀ f ∈ out.files, f.kind = .theme → ¬ HasTypes f.content ∨
        o.backend = .cssModules ∧ f.content = sheetHeader ++ tokenSheet o.tokenTable) ∧
    ∀ f ∈ out.files, f.kind ≠ .types := by
  have hext : o.componentExt = "jsx" := by rw [ConvertOptions.componentExt, hts]; rfl
  refine ⟨fun f hf hk => ?_,fun ho => ⟨fun f hf hk => ?_,fun f hf hk => ?_⟩,fun f hf => ?_⟩
  · obtain ⟨t,ht,hpath,hcontent⟩ := exists_target_of_component hc hf hk
    have hname := ((nodup_nameTargets [] _).2 t ht).1
    rw [hext, String.append_assoc] at hpath
    exact ⟨t,ht,hpath,hcontent,fun hfit => exists_hasTypes_imports_iff hts hfit hname,
      not_hasTypes_parametersText hts t.name,fun hfit _ => hasTypes_definition_iff hfit ht⟩
  · rw [eq_indexFile_of_kind hc hf hk, components_of_convert hc]
    exact not_hasTypes_indexFile hts ho
      (List.forall_mem_map.mpr fun t ht => ((nodup_nameTargets [] _).2 t ht).1)
  · have htheme := themeFile_of_kind hc hf hk
    unfold themeFile at htheme
    split at htheme
    · split at htheme
      · contradiction
      · next hb =>
        cases htheme
        exact .inr ⟨hb,rfl⟩
      all_goals
        cases htheme
        exact .inl (not_hasTypes_themeScript hts ho _)
    · contradiction
  · exact kind_ne_types hc hts hf

end

/-- A card that arranges its row. -/
def cardTarget : Target :=
  ⟨⟨{ Attributes.bare "1" "Card" .component with layoutMode := some .horizontal },
    [.node (Attributes.bare "2" "Row" .frame) []]⟩,"Card"⟩

/-- A themed project without types that has the card. -/
def cardOptions (b : Backend) : ConvertOptions :=
  { ConvertOptions.standard with backend := b, themed := true, typescript := false }

/-- A project with styled components has no types, although it has a theme. -/
theorem types_iff_namesTheme_styled :
    let d : Document := .ofRoot cardTarget.node
    let o := cardOptions .styledComponents
    ∃ out, convert o d = .ok out ∧ o.typescript = false ∧ out.files.length = 3 ∧
      (∀ f ∈ out.files, f.kind = .component → ∃ t ∈ nameTargets [] (targetNodes o d).1,
        f.content = (t.preamble o d).fileText o (t.built o d).2 ∧
        (¬ ∃ line ∈ (t.preamble o d).imports, HasTypes line) ∧
        ∀ e ∈ (t.preamble o d).definitions, ¬ HasTypes e.source) ∧
      ∀ f ∈ out.files, f.kind = .index ∨ f.kind = .theme → ¬ HasTypes f.content := by
  intro d o
  have hlength : (convert o d).toOption.map (·.files.length) = some 3 := by decide +kernel
  obtain ⟨out,hc⟩ : ∃ out, convert o d = .ok out := exists_of_isOk (by decide +kernel)
  rw [hc] at hlength
  obtain ⟨hcomponent,hshared,-⟩ := types_iff_namesTheme hc rfl
  obtain ⟨hindex,htheme⟩ := hshared nofun
  have hnone : ¬ o.namesTheme := fun h => absurd h.2 (by decide)
  have hassets : AssetsFit o := ⟨by decide,List.forall_mem_nil _⟩
  have hstyles : StylesFit o d := ⟨by decide +kernel,by decide +kernel⟩
  refine ⟨out,hc,rfl,Option.some_inj.mp hlength,fun f hf hk => ?_,fun f hf => ?_⟩
  · obtain ⟨t,ht,-,hcontent,himports,-,hdefinitions⟩ := hcomponent f hf hk
    exact ⟨t,ht,hcontent,(himports hassets).not.mpr hnone,
      fun e he => (hdefinitions hstyles e he).not.mpr hnone⟩
  · rintro (hk | hk)
    · exact hindex f hf hk
    · exact (htheme f hf hk).resolve_right fun h => absurd h.1 (by decide)

/-- With style objects, the card imports the type of the theme and says it of a parameter. -/
theorem style_object_has_types :
    let d : Document := .ofRoot cardTarget.node
    let o := cardOptions .emotion
    o.isValid = true ∧ ∃ out, convert o d = .ok out ∧ ∃ f ∈ out.files,
      f.kind = .component ∧ f.path = "components/Card.jsx" ∧
      f.content = (cardTarget.preamble o d).fileText o (cardTarget.built o d).2 ∧
      (∃ line ∈ (cardTarget.preamble o d).imports, HasTypes line) ∧
      ∃ e ∈ (cardTarget.preamble o d).definitions, HasTypes e.source := by
  intro d o
  obtain ⟨out,hc⟩ : ∃ out, convert o d = .ok out := exists_of_isOk (by decide +kernel)
  have hname : Naming.fresh [] (Naming.componentIdentifier "Card") = "Card" := by decide +kernel
  have ht : cardTarget ∈ nameTargets [] (targetNodes o d).1 := by
    change cardTarget ∈ nameTargets [] [cardTarget.node]
    rw [nameTargets_cons hname (n := cardTarget.node) rfl]
    exact List.mem_cons_self
  have hpath : o.componentPath "Card.jsx" = "components/Card.jsx" := by decide +kernel
  obtain ⟨f,hf,hk,hfile,hcontent⟩ := exists_file_of_target hc ht
  exact ⟨by decide +kernel,out,hc,f,hf,hk,hfile.trans hpath,hcontent,by decide +kernel,
    by decide +kernel⟩

end DesignCompiler.Project
