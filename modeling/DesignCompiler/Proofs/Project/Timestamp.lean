import DesignCompiler.Project.Conversion
import DesignCompiler.Proofs.Markup.Rendering
import DesignCompiler.Proofs.Text.Lines
import DesignCompiler.UserBlocks.Update

/-! Two conversions that differ only in the time that their files name come to the same files, apart
from the line that marks each as generated: no file of the first is touched by the second. -/
namespace DesignCompiler.UserBlocks

lemma isGeneratedHeader_headerMark : isGeneratedHeader headerMark.toList = true := by decide

lemma normalize_cons_line {l : String} (hl : Text.OneLine l) (rest : String) :
    normalize (l ++ "\n" ++ rest) = String.ofList (Text.collapseBlanks (['\n'].intercalate
      ((if isGeneratedHeader l.toList then headerMark.toList else l.toList) ::
        (rest.toList.splitOn '\n').map fun l =>
          if isGeneratedHeader l then headerMark.toList else l))) := by
  have hsplit : (l ++ "\n" ++ rest).toList.splitOn '\n' =
      l.toList :: rest.toList.splitOn '\n' := by
    rw [String.toList_append, String.toList_append, List.append_assoc]
    exact List.splitOn_append_cons_self_of_not_mem hl rest.toList
  rw [normalize, hsplit, List.map_cons]

/-- What a first line says does not count, if it marks the file as generated. -/
theorem normalize_header {h : String} (hh : isGeneratedHeader h.toList = true)
    (hl : Text.OneLine h) (rest : String) :
    normalize (h ++ "\n" ++ rest) = normalize (headerMark ++ "\n" ++ rest) := by
  rw [normalize_cons_line hl, normalize_cons_line (by decide), if_pos hh,
    if_pos isGeneratedHeader_headerMark]

/-- A file that says the same as before is left alone. -/
lemma decideUpdate_of_normalize_eq {previous fresh : String}
    (h : normalize previous = normalize fresh) : decideUpdate (some previous) fresh = .skip := by
  rw [decideUpdate, h]
  simp

end DesignCompiler.UserBlocks

namespace DesignCompiler.Project
open Document Styling Markup Output

/-- The options with another time for generated files to name. -/
def ConvertOptions.stamped (o : ConvertOptions) (time : Option String) : ConvertOptions :=
  { o with timestamp := time }

/-- The header marks its file as generated, whatever time it names. -/
lemma isGeneratedHeader_header (o : ConvertOptions) :
    UserBlocks.isGeneratedHeader o.header.toList = true := by
  unfold ConvertOptions.header
  rw [String.append_assoc, String.toList_append]
  rfl

lemma oneLine_header {o : ConvertOptions} (ho : ∀ s ∈ o.timestamp, Text.OneLine s) :
    Text.OneLine o.header := by
  unfold ConvertOptions.header
  rw [Text.oneLine_append, Text.oneLine_append]
  refine ⟨⟨by decide,?_⟩,by decide⟩
  cases ht : o.timestamp with
  | none => exact Text.oneLine_empty
  | some s => exact Text.oneLine_append.mpr ⟨by decide,ho s ht⟩

/-- Two files that differ at most in the header with which they begin. -/
inductive SameButHeader (h h' : String) : GeneratedFile → GeneratedFile → Prop
  | same (f : GeneratedFile) : SameButHeader h h' f f
  | headed (path rest : String) (kind : FileKind) :
      SameButHeader h h' ⟨path,h ++ "\n" ++ rest,kind⟩ ⟨path,h' ++ "\n" ++ rest,kind⟩

/-- Two runs leave a file alone: it has one path in both, and the second run would not touch what
the first has written. -/
structure LeftAlone (f g : GeneratedFile) : Prop where
  path : f.path = g.path
  skip : UserBlocks.decideUpdate (some f.content) g.content = .skip

lemma SameButHeader.leftAlone {o o' : ConvertOptions} {f g : GeneratedFile}
    (ho : ∀ s ∈ o.timestamp, Text.OneLine s) (ho' : ∀ s ∈ o'.timestamp, Text.OneLine s)
    (h : SameButHeader o.header o'.header f g) : LeftAlone f g := by
  cases h with
  | same => exact ⟨rfl,UserBlocks.decideUpdate_of_normalize_eq rfl⟩
  | headed path rest kind =>
    refine ⟨rfl,UserBlocks.decideUpdate_of_normalize_eq ?_⟩
    rw [UserBlocks.normalize_header (isGeneratedHeader_header o) (oneLine_header ho),
      UserBlocks.normalize_header (isGeneratedHeader_header o') (oneLine_header ho')]

section
variable {s : Setting} {time : Option String}

/-! ## The markup names no time -/

/-- What markup is built with, when its files name another time. -/
def restamped (s : Setting) (time : Option String) : Setting :=
  { s with options := s.options.stamped time }

lemma childMarkup_restamped {e : Element}
    (he : ∀ b keyed, markup (restamped s time) b keyed e = markup s b keyed e) (b : Building)
    (r : Option Repeat) (i : ℕ) :
    childMarkup (restamped s time) b r i e = childMarkup s b r i e := by
  unfold childMarkup
  simp only [he]

lemma childrenMarkup_restamped {es : List Element}
    (hes : ∀ e ∈ es, ∀ b keyed, markup (restamped s time) b keyed e = markup s b keyed e)
    (b : Building) (r : Option Repeat) (i : ℕ) :
    childrenMarkup (restamped s time) b r i es = childrenMarkup s b r i es := by
  induction es generalizing b i with
  | nil => rw [childrenMarkup, childrenMarkup]
  | cons e es ih =>
    obtain ⟨he,hes⟩ := List.forall_mem_cons.mp hes
    rw [childrenMarkup_cons, childrenMarkup_cons, childMarkup_restamped he, ih hes]

/-- The markup of an element is the same with another time. -/
theorem markup_restamped (s : Setting) (time : Option String) (e : Element) :
    ∀ b keyed, markup (restamped s time) b keyed e = markup s b keyed e := by
  induction e with
  | mk h es ih =>
    intro b keyed
    have hchildren := childrenMarkup_restamped ih (openElement s b keyed h []).1 (repetition? h) 0
    have hopen : openElement (restamped s time) b keyed h [] = openElement s b keyed h [] := rfl
    rw [markup, markup]
    cases h.kind
    case text | image | divider | icon | componentInstance => rfl
    case container | component =>
      simp only [hopen, hchildren]
      by_cases hl : standsOnOneLine es = true
      · obtain ⟨e,rfl⟩ := exists_eq_singleton_of_standsOnOneLine hl
        simp only [onlyMarkup, ih e (List.mem_singleton_self e)]
      · simp only [if_neg hl]

end

/-! ## The files of a conversion -/

section
variable {t : Template} {h h' : String} {fields : List (String × String)}

lemma render?_other (ht : TemplatePart.field "header" ∉ t) :
    t.render? (fun name => ((("header",h) :: fields).find? (·.1 == name)).map (·.2)) =
      t.render? fun name => (fields.find? (·.1 == name)).map (·.2) := by
  induction t with
  | nil => rfl
  | cons part t ih =>
    rw [List.mem_cons, not_or] at ht
    cases part with
    | text s => rw [Template.render?, Template.render?, ih ht.2]
    | field name =>
      have hname : ("header" == name) = false :=
        beq_eq_false_iff_ne.mpr fun hn => ht.1 (by rw [hn])
      rw [Template.render?, Template.render?, ih ht.2, List.find?_cons, hname]

/-- A file made from a template that begins with the header, and has it nowhere else. -/
lemma sameButHeader_fillIn (ht : TemplatePart.field "header" ∉ t) (path : String)
    (kind : FileKind) :
    SameButHeader h h'
      ⟨path,fillIn (.field "header" :: .text "\n" :: t) (("header",h) :: fields),kind⟩
      ⟨path,fillIn (.field "header" :: .text "\n" :: t) (("header",h') :: fields),kind⟩ := by
  unfold fillIn
  simp only [Template.render?, render?_other ht]
  cases t.render? fun name => (fields.find? (·.1 == name)).map (·.2) with
  | none => exact .same _
  | some rest =>
    have hf : SameButHeader h h' _ _ := .headed path rest kind
    rwa [String.append_assoc, String.append_assoc] at hf

end

section
variable (o : ConvertOptions) (time : Option String)

lemma sameButHeader_componentFile (name : String) (props : List PropDef)
    (m : DesignCompiler.Markup) (depth : ℕ) (imports : List String) :
    SameButHeader o.header (o.stamped time).header (componentFile o name props m depth imports)
      (componentFile (o.stamped time) name props m depth imports) :=
  sameButHeader_fillIn (by decide) _ _

lemma sameButHeader_typesFile (name : String) (props : List PropDef)
    (m : DesignCompiler.Markup) :
    List.Forall₂ (SameButHeader o.header (o.stamped time).header)
      (typesFile o name props m).toList (typesFile (o.stamped time) name props m).toList := by
  unfold typesFile
  change List.Forall₂ _ _ (Option.toList (if o.typescript = true then _ else _))
  split
  · exact .cons (sameButHeader_fillIn (by decide) _ _) .nil
  · exact .nil

lemma sameButHeader_indexFile (components : List String) :
    SameButHeader o.header (o.stamped time).header (indexFile o components)
      (indexFile (o.stamped time) components) :=
  sameButHeader_fillIn (by decide) _ _

/-- The script of a theme after its header. -/
def themeBody (t : Tokens.TokenTable) : String :=
  "export const theme = " ++ t.toJson.indented "" ++ ";\n" ++
    if o.typescript then "\nexport type Theme = typeof theme;\n" else ""

lemma themeScript_eq (t : Tokens.TokenTable) :
    themeScript o t = o.header ++ "\n" ++ themeBody o t := by
  have hfirst : "\nexport const theme = " = "\n" ++ "export const theme = " := rfl
  unfold themeScript themeBody
  simp only [hfirst, String.append_assoc]

lemma sameButHeader_themeFile :
    List.Forall₂ (SameButHeader o.header (o.stamped time).header)
      (themeFile o o.tokenTable).toList
      (themeFile (o.stamped time) (o.stamped time).tokenTable).toList := by
  have hthemed : (o.stamped time).themed = o.themed := rfl
  have hbackend : (o.stamped time).backend = o.backend := rfl
  unfold themeFile
  rw [hthemed, hbackend]
  split
  · cases o.backend with
    | tailwind => exact .nil
    | cssModules => exact .cons (.same _) .nil
    | styledComponents | emotion =>
      refine .cons ?_ .nil
      rw [themeScript_eq, themeScript_eq]
      exact .headed _ _ _
  · exact .nil

/-- The conversion of a component comes to the same with another time. -/
lemma convertComponent_stamped (d : Document) (registry : ComponentRegistry) (t : Target) :
    List.Forall₂ (SameButHeader o.header (o.stamped time).header)
        (convertComponent o d registry t).files
        (convertComponent (o.stamped time) d registry t).files ∧
      (convertComponent (o.stamped time) d registry t).tally =
        (convertComponent o d registry t).tally := by
  have hbuild : ∀ (s : Scheme) (p : Progress) (e : Element),
      Markup.build ⟨s,registry,o.stamped time⟩ p t.name e =
        Markup.build ⟨s,registry,o⟩ p t.name e := by
    intro s p e
    have hm := markup_restamped ⟨s,registry,o⟩ time e ⟨p,[]⟩ false
    unfold restamped at hm
    rw [Markup.build, Markup.build, hm]
  have hscheme : (⟨(o.stamped time).backend,(o.stamped time).themed,(o.stamped time).tokenTable⟩ :
      Scheme) = ⟨o.backend,o.themed,o.tokenTable⟩ := rfl
  unfold convertComponent
  dsimp only
  rw [hbuild, hscheme]
  refine ⟨.cons (sameButHeader_componentFile ..) ?_,rfl⟩
  refine List.rel_append (sameButHeader_typesFile ..) ?_
  generalize (styleSheet _ _ _).2 = sheet
  cases sheet with
  | none => exact .nil
  | some css => exact .cons (.same _) .nil

end

/-- How two conversions that differ in their time come out: both fail for the same reason, or every
file of the one is left alone by the other. -/
inductive Untouched :
    Except ConversionError ConversionOutput → Except ConversionError ConversionOutput → Prop
  | failed (e : ConversionError) : Untouched (.error e) (.error e)
  | files {out out' : ConversionOutput} : List.Forall₂ LeftAlone out.files out'.files →
      Untouched (.ok out) (.ok out')

/-- A conversion that differs from another only in its time touches none of its files. -/
theorem untouched_convert_stamped {o : ConvertOptions} {time : Option String} (d : Document)
    (ho : ∀ s ∈ o.timestamp, Text.OneLine s) (htime : ∀ s ∈ time, Text.OneLine s) :
    Untouched (convert o d) (convert (o.stamped time) d) := by
  have hcomponent := fun t : Target =>
    convertComponent_stamped o time d (FromDesign.registryOf d) t
  have htargets : targetNodes (o.stamped time) d = targetNodes o d := rfl
  unfold convert
  dsimp only
  rw [htargets]
  generalize nameTargets [] (targetNodes o d).1 = targets
  have htally : (targets.map (convertComponent (o.stamped time) d (FromDesign.registryOf d))).map
      (·.tally) = (targets.map (convertComponent o d (FromDesign.registryOf d))).map (·.tally) := by
    rw [List.map_map, List.map_map]
    exact List.map_congr_left fun t _ => (hcomponent t).2
  have hfiles : List.Forall₂ (SameButHeader o.header (o.stamped time).header)
      ((targets.map (convertComponent o d (FromDesign.registryOf d))).flatMap (·.files))
      ((targets.map (convertComponent (o.stamped time) d (FromDesign.registryOf d))).flatMap
        (·.files)) := by
    rw [List.flatMap_map, List.flatMap_map]
    exact List.rel_flatMap (List.forall₂_same.mpr fun t _ => rfl)
      fun t _ ht => ht ▸ (hcomponent t).1
  rw [htally]
  split
  · exact .failed _
  · refine .files (List.Forall₂.imp (fun _ _ hf => SameButHeader.leftAlone ho htime hf)
      (List.rel_append hfiles ?_))
    split
    · exact .nil
    · exact .cons (sameButHeader_indexFile ..) (sameButHeader_themeFile ..)

/-- A themed project with one component, first without a time and then with one. -/
theorem untouched_convert_stamped_card :
    let card : Attributes := { Attributes.bare "1" "Card" .component with
      layoutMode := some .horizontal }
    let d : Document := .ofRoot ⟨card,[.node (Attributes.bare "2" "Row" .frame) []]⟩
    let o : ConvertOptions := { ConvertOptions.standard with
      backend := .emotion, themed := true }
    let o' : ConvertOptions := o.stamped (some "2024-01-01 // @generated")
    ∃ out out', convert o d = .ok out ∧ convert o' d = .ok out' ∧
      out.files.length = 4 ∧ List.Forall₂ LeftAlone out.files out'.files := by
  intro card d o o'
  have hlength : (convert o d).toOption.map (·.files.length) = some 4 := by decide +kernel
  have h : Untouched (convert o d) (convert o' d) :=
    untouched_convert_stamped d (by decide) (by decide)
  generalize convert o d = first at h hlength
  generalize convert o' d = second at h
  cases h with
  | failed e => contradiction
  | files hf => exact ⟨_,_,rfl,rfl,Option.some_inj.mp hlength,hf⟩

end DesignCompiler.Project
