import DesignCompiler.Proofs.Markup.Icons
import DesignCompiler.Proofs.Project.Instances
import DesignCompiler.Proofs.Project.Paths
import DesignCompiler.Proofs.Styling.DefinitionNames
import DesignCompiler.Proofs.UserBlocks.Marker

/-! The names that the file of a component binds at its top: those of its imports, of its style
definitions, and its own. Which of them can clash is told by what each is made from. -/
namespace DesignCompiler.Project
open Document FromDesign Naming Styling Markup Output

/-! ## Reading names -/

/-- The identifier with which a text begins. -/
def leadingName (cs : List Char) : String :=
  String.ofList (cs.takeWhile fun c => decide (IsNameChar c))

/-- A text without a beginning that it may have. -/
def skip (w : String) (cs : List Char) : List Char := (Text.afterPrefix? w.toList cs).getD cs

/-- The name that a line of imports binds, if it binds one. -/
def importedName? (line : String) : Option String :=
  (Text.afterPrefix? "import ".toList line.toList).bind fun rest =>
    let name := leadingName (skip "\x7b " (skip "type " rest))
    if name = "" then none else some name

/-- The name that a definition binds. -/
def definedName? (source : String) : Option String :=
  (Text.afterPrefix? "const ".toList source.toList).map leadingName

/-- The names that the file of a component binds at its top, in order. -/
def Preamble.moduleNames (pre : Preamble) (component : String) : List String :=
  pre.imports.filterMap importedName? ++ pre.definitions.filterMap (definedName? ·.source) ++
    [component]

section
variable {name line : String} {c : Char} {cs : List Char}

/-- An identifier is read up to the first character that is not one of it. -/
lemma leadingName_append (hn : ∀ d ∈ name.toList, IsNameChar d) (hc : ¬ IsNameChar c) :
    leadingName (name.toList ++ c :: cs) = name := by
  rw [leadingName, List.takeWhile_append_of_pos (by simpa using hn),
    List.takeWhile_cons_of_neg (by simpa using hc), List.append_nil, String.ofList_toList]

lemma skip_append (w : String) (cs : List Char) : skip w (w.toList ++ cs) = cs := by
  rw [skip, UserBlocks.afterPrefix?_eq_some.mpr rfl, Option.getD_some]

lemma afterPrefix?_of_ne {w : String} {d : Char} {ds : List Char} (hw : w.toList = d :: ds)
    (hd : d ≠ c) : Text.afterPrefix? w.toList (c :: cs) = none := by
  rw [Option.eq_none_iff_forall_ne_some]
  intro rest h
  rw [UserBlocks.afterPrefix?_eq_some, hw] at h
  exact hd (List.cons.inj h).1.symm

lemma skip_of_ne {w : String} {d : Char} {ds : List Char} (hw : w.toList = d :: ds) (hd : d ≠ c) :
    skip w (c :: cs) = c :: cs := by
  rw [skip, afterPrefix?_of_ne hw hd, Option.getD_none]

lemma definedName?_const (hn : ∀ d ∈ name.toList, IsNameChar d) (value : String) :
    definedName? ("const " ++ name ++ " = " ++ value) = some name := by
  have hchars : ("const " ++ name ++ " = " ++ value).toList =
      "const ".toList ++ (name.toList ++ ' ' :: ("= ".toList ++ value.toList)) := by
    simp [String.toList_append]
  rw [definedName?, hchars, UserBlocks.afterPrefix?_eq_some.mpr rfl, Option.map_some,
    leadingName_append hn (by decide)]

/-- The name that is imported is read in all forms of imports. -/
lemma importedName?_eq (opening rest : String) (ho : opening ∈ ["","\x7b ","type \x7b "])
    (hline : line.toList = ("import " ++ opening ++ name ++ " " ++ rest).toList)
    (hn : ∀ d ∈ name.toList, IsNameChar d) (hfirst : ∃ a as, name.toList = a :: as ∧ a ≠ 't') :
    importedName? line = some name := by
  obtain ⟨a,as,hname,ha⟩ := hfirst
  have hchars : line.toList =
      "import ".toList ++ (opening.toList ++ (name.toList ++ ' ' :: rest.toList)) := by
    rw [hline]
    simp [String.toList_append]
  have hskip : skip "\x7b " (skip "type " (opening.toList ++ (name.toList ++ ' ' :: rest.toList))) =
      name.toList ++ ' ' :: rest.toList := by
    simp only [List.mem_cons, List.not_mem_nil, or_false] at ho
    obtain rfl | rfl | rfl := ho
    · have hbrace : '\x7b' ≠ a := by
        rintro rfl
        exact absurd (hn _ (hname ▸ List.mem_cons_self)) (by decide)
      rw [hname]
      exact (congrArg _ (skip_of_ne rfl ha.symm)).trans (skip_of_ne rfl hbrace)
    · rw [show "\x7b ".toList = ['\x7b',' '] from rfl, List.cons_append,
        skip_of_ne rfl (by decide)]
      exact skip_append "\x7b " _
    · have hsplit : "type \x7b ".toList = "type ".toList ++ "\x7b ".toList := rfl
      rw [hsplit, List.append_assoc, skip_append, skip_append]
  have hne : name ≠ "" := by
    rintro rfl
    exact List.cons_ne_nil a as hname.symm
  rw [importedName?, hchars, UserBlocks.afterPrefix?_eq_some.mpr rfl, Option.bind_some, hskip,
    leadingName_append hn (by decide)]
  exact if_neg hne

lemma importedName?_componentName (opening rest : String) (ho : opening ∈ ["","\x7b ","type \x7b "])
    (hline : line.toList = ("import " ++ opening ++ name ++ " " ++ rest).toList)
    (hn : IsComponentName name) : importedName? line = some name := by
  refine importedName?_eq opening rest ho hline hn.isNameChar ?_
  obtain ⟨a,as,hname,ha,-⟩ := hn
  refine ⟨a,as,hname,?_⟩
  rintro rfl
  contradiction

/-- A line that tells the compiler how to treat the file binds no name. -/
lemma importedName?_of_isPragma (h : isPragma line = true) : importedName? line = none := by
  obtain ⟨rest,hrest⟩ := List.isPrefixOf_iff_prefix.mp h
  have hnone : Text.afterPrefix? "import ".toList line.toList = none := by
    rw [Option.eq_none_iff_forall_ne_some]
    intro cs hcs
    rw [UserBlocks.afterPrefix?_eq_some, ← hrest] at hcs
    exact absurd (List.cons.inj hcs).1 (by decide)
  rw [importedName?, hnone, Option.bind_none]

end

/-- What is imported is read in the lines that are no pragmas. -/
lemma filterMap_filter_isPragma (lines : List String) :
    (lines.filter isPragma).filterMap importedName? = [] ∧
      (lines.filter (!isPragma ·)).filterMap importedName? = lines.filterMap importedName? := by
  constructor
  · rw [List.filterMap_eq_nil_iff]
    exact fun l hl => importedName?_of_isPragma (List.mem_filter.mp hl).2
  · rw [List.filterMap_filter]
    refine List.filterMap_congr fun l _ => ?_
    cases hp : isPragma l with
    | true => exact (importedName?_of_isPragma hp).symm
    | false => rfl

lemma filterMap_map_eq {α : Type} {f : α → String} {g : α → String} {as : List α}
    (h : ∀ a ∈ as, importedName? (f a) = some (g a)) :
    (as.map f).filterMap importedName? = as.map g := by
  rw [List.filterMap_map, ← List.filterMap_eq_map]
  exact List.filterMap_congr h

/-! ## The names by what they are made from -/

/-- The names that the imports for a theme bind. -/
def themeNames (themed : Bool) (b : Backend) : List String :=
  if themed && b == .emotion then ["Theme"] else []

/-- The name of the type of a component's props, if types are written. -/
def propsNames (o : ConvertOptions) (component : String) : List String :=
  if o.typescript then [component ++ "Props"] else []

/-- The names that the imports for a style sheet or for a library of styles can bind. -/
def libraryNames : List (Option String) := [none,some "styles",some "styled",some "css"]

/-- The name that a line binds, if the line is kept: one for a style sheet needs that there is one.
-/
def keptName? (hasSheet : Bool) (line : String) : Option String :=
  if hasSheet || !Text.contains line ".module.css" then importedName? line else none

lemma keptName?_of_contains {line : String} (hl : Text.contains line ".module.css" = false)
    (hasSheet : Bool) : keptName? hasSheet line = importedName? line := by
  rw [keptName?, hl, Bool.not_false, Bool.or_true, if_pos rfl]

lemma keptName?_sheet (hasSheet : Bool) (file : String) :
    keptName? hasSheet ("import styles from './" ++ file ++ "';") = none ∨
      keptName? hasSheet ("import styles from './" ++ file ++ "';") = some "styles" := by
  unfold keptName?
  split
  · exact .inr (importedName?_eq "" ("from './" ++ file ++ "';") (by decide)
      (by simp [String.toList_append]) (by decide)
      ⟨'s',_,rfl,by decide⟩)
  · exact .inl rfl

/-- A scheme imports at most one name for its styles, and the theme. -/
lemma exists_names_styleImports (s : Scheme) (p : Progress) (hasSheet : Bool) :
    ∃ own ∈ libraryNames, (styleImports s p).filterMap (keptName? hasSheet) =
      own.toList ++ themeNames s.themed s.backend := by
  -- of all lines only that of a style sheet depends on whether there is one
  have hkept : ∀ line name?, Text.contains line ".module.css" = false →
      importedName? line = name? → keptName? hasSheet line = name? := fun line _ hl hn =>
    (keptName?_of_contains hl hasSheet).trans hn
  have htokens := hkept "import '../theme/tokens.css';" none (by decide +kernel) (by decide +kernel)
  have hstyled := hkept "import styled from 'styled-components';" (some "styled")
    (by decide +kernel) (by decide +kernel)
  have hcss := hkept "import \x7b css \x7d from '@emotion/react';" (some "css")
    (by decide +kernel) (by decide +kernel)
  have hpragma := hkept "/** @jsxImportSource @emotion/react */" none
    (by decide +kernel) (by decide +kernel)
  have htheme := hkept "import type \x7b Theme \x7d from '../theme';" (some "Theme")
    (by decide +kernel) (by decide +kernel)
  obtain ⟨b,themed,tokens⟩ := s
  cases b with
  | tailwind => exact ⟨none,by decide,by cases themed <;> rfl⟩
  | cssModules =>
    obtain hsheet | hsheet := keptName?_sheet hasSheet (styleSheetFile p.component)
    · refine ⟨none,by decide,?_⟩
      cases themed <;> simp [styleImports, Backend.themeImports, themeNames, hsheet, htokens]
    · refine ⟨some "styles",by decide,?_⟩
      cases themed <;> simp [styleImports, Backend.themeImports, themeNames, hsheet, htokens]
  | styledComponents =>
    refine ⟨some "styled",by decide,?_⟩
    cases themed <;> simp [styleImports, Backend.themeImports, themeNames, hstyled]
  | emotion =>
    refine ⟨some "css",by decide,?_⟩
    cases themed <;>
      simp [styleImports, Backend.themeImports, themeNames, hpragma, hcss, htheme]

/-! ## Names in markup -/

/-- The last character of a text. -/
def EndsIn (c : Char) (s : String) : Prop := s.toList.getLast? = some c

/-- What is known of the names in the markup of a component. -/
structure MarkupNames (b : Backend) (m : DesignCompiler.Markup) : Prop where
  component : IsComponentName m.component
  components : ∀ c ∈ m.components, IsComponentName c ∧ c ≠ m.component
  icons : ∀ i ∈ m.icons, IsComponentName i.ident ∧ EndsIn 'n' i.ident
  definitions : ∀ e ∈ m.definitions, definedName? e.source = some e.name ∧
    (b = .styledComponents ∨ b = .emotion) ∧ DefinitionName b e.name

lemma endsIn_iconIdentifier (name : String) : EndsIn 'n' (iconIdentifier name) := by
  unfold iconIdentifier
  dsimp only
  split
  · next h =>
    obtain ⟨before,hbefore⟩ := List.isSuffixOf_iff_suffix.mp h
    rw [EndsIn, ← hbefore, List.getLast?_append_of_ne_nil _ (by decide)]
    rfl
  · rw [EndsIn, String.toList_append, List.getLast?_append_of_ne_nil _ (by decide)]
    rfl

lemma isComponentName_append {s t : String} (hs : IsComponentName s)
    (ht : ∀ c ∈ t.toList, IsNameChar c) : IsComponentName (s ++ t) := by
  obtain ⟨c,cs,h,hc,hcs⟩ := hs
  refine ⟨c,cs ++ t.toList,?_,hc,List.forall_mem_append.mpr ⟨hcs,ht⟩⟩
  rw [String.toList_append, h, List.cons_append]

lemma isComponentName_propsName {component : String} (h : IsComponentName component) :
    IsComponentName (component ++ "Props") :=
  isComponentName_append h (by decide)

lemma isComponentName_iconIdentifier (name : String) : IsComponentName (iconIdentifier name) := by
  have hname := isComponentName_componentIdentifier name
  unfold iconIdentifier
  dsimp only
  split
  · exact hname
  · exact isComponentName_append hname (by decide)

section
variable {o : ConvertOptions} {d : Document} {t : Target}

/-- A component to which a target's markup refers has the name of a component, but not the
target's. -/
lemma isComponentName_of_mem_components {c : String} (hc : c ∈ (t.built o d).2.components) :
    IsComponentName c ∧ c ≠ t.name := by
  obtain ⟨part,hpart,hc⟩ := List.mem_filterMap.mp (mem_of_mem_firstByKey hc)
  cases part with
  | component tag =>
    obtain ⟨hne,hc⟩ := Option.ite_none_left_eq_some.mp hc
    obtain rfl := Option.some.inj hc
    refine ⟨?_,fun he => hne (beq_iff_eq.mpr he)⟩
    rw [← mem_componentTags, componentTags_built] at hpart
    obtain ⟨h,hh,rfl⟩ := List.mem_map.mp hpart
    obtain ⟨hwalk,hkind,hknown⟩ := mem_walk_of_mem_instances hh
    obtain ⟨i,hi,hcontains⟩ := (Option.any_eq_true _ _).mp hknown
    obtain ⟨entry,hentry⟩ := Option.isSome_iff_exists.mp hcontains
    rw [namedByComponent_of_mem_walk (registryOf d) (some d.styles) t.node hwalk hkind i hi entry
      hentry]
    exact isComponentName_componentIdentifier _
  | _ => nomatch hc

lemma markupNames_built (ht : IsComponentName t.name) :
    MarkupNames o.backend (t.built o d).2 := by
  refine ⟨ht,fun c hc => isComponentName_of_mem_components hc,fun i hi => ?_,fun e he => ?_⟩
  · rw [Target.built, icons_build] at hi
    obtain ⟨name,-,-,rfl⟩ := exists_of_mem_iconUses (mem_of_mem_firstByKey hi)
    exact ⟨isComponentName_iconIdentifier name,endsIn_iconIdentifier name⟩
  · obtain ⟨u,hu,hdef⟩ := exists_style_of_mem_definitions he
    have hname := definitionName_styleAll (p := Progress.start.beginComponent t.name)
      (List.forall_mem_nil _) hu hdef
    obtain ⟨value,hsource⟩ := defines_of_mem_definitions he
    refine ⟨?_,hname⟩
    rw [hsource]
    exact definedName?_const hname.2.chars value

end

/-! ## Clashes -/

/-- The names that begin with a capital and that no layer is asked for. -/
def reservedNames (o : ConvertOptions) : List String := "React" :: themeNames o.themed o.backend

/-- No name is bound twice among those that can be: a component, another component that is imported,
an icon, and the type of the props can have one name, and so can a styled component. -/
structure Unclashed (o : ConvertOptions) (m : DesignCompiler.Markup) : Prop where
  reserved : ∀ name ∈ reservedNames o, name ≠ m.component ∧ name ∉ m.components
  icons : ∀ i ∈ m.icons, i.ident ≠ m.component ∧ i.ident ∉ m.components
  props : o.typescript = true → m.component ++ "Props" ∉ m.components
  styled : o.backend = .styledComponents → ∀ e ∈ m.definitions,
    e.name ≠ m.component ∧ e.name ∉ m.components ∧ e.name ∉ m.icons.map (·.ident) ∧
      (o.typescript = true → e.name ≠ m.component ++ "Props")

section
variable {o : ConvertOptions} {m : DesignCompiler.Markup}

/-- The names that begin with a capital, whatever the scheme. -/
def capitalNames (o : ConvertOptions) (m : DesignCompiler.Markup) : List String :=
  reservedNames o ++ (m.components ++ (m.icons.map (·.ident) ++
    (propsNames o m.component ++ [m.component])))

lemma not_isComponentName {name : String} {c : Char} {cs : List Char} (hname : name.toList = c :: cs)
    (hc : c.isUpper = false) : ¬ IsComponentName name := by
  rintro ⟨a,as,ha,hupper,-⟩
  obtain ⟨rfl,-⟩ := List.cons.inj (hname.symm.trans ha)
  rw [hc] at hupper
  contradiction

lemma reservedNames_sublist (o : ConvertOptions) :
    (reservedNames o).Sublist ["React","Theme"] := by
  unfold reservedNames themeNames
  split
  · exact List.Sublist.refl _
  · exact (List.nil_sublist _).cons_cons _

lemma mem_propsNames {name component : String} :
    name ∈ propsNames o component ↔ o.typescript = true ∧ name = component ++ "Props" := by
  unfold propsNames
  split <;> simp [*]

lemma endsIn_propsNames {name component : String} (h : name ∈ propsNames o component) :
    EndsIn 's' name := by
  rw [(mem_propsNames.mp h).2, EndsIn, String.toList_append,
    List.getLast?_append_of_ne_nil _ (by decide)]
  rfl

lemma isComponentName_of_mem_capitalNames (hm : MarkupNames o.backend m) {name : String}
    (hn : name ∈ capitalNames o m) : IsComponentName name := by
  simp only [capitalNames, List.mem_append, List.mem_map, List.mem_singleton] at hn
  obtain hn | hn | ⟨i,hi,rfl⟩ | hn | rfl := hn
  · have hreserved := (reservedNames_sublist o).subset hn
    simp only [List.mem_cons, List.not_mem_nil, or_false] at hreserved
    obtain rfl | rfl := hreserved
    · exact ⟨'R',_,rfl,by decide,by decide⟩
    · exact ⟨'T',_,rfl,by decide,by decide⟩
  · exact (hm.components name hn).1
  · exact (hm.icons i hi).1
  · rw [(mem_propsNames.mp hn).2]
    exact isComponentName_propsName hm.component
  · exact hm.component

/-- Texts that end in different characters are different. -/
lemma disjoint_of_endsIn {xs ys : List String} {c : Char} (hx : ∀ x ∈ xs, EndsIn c x)
    (hy : ∀ y ∈ ys, ¬ EndsIn c y) : xs.Disjoint ys := fun y h h' => hy y h' (hx y h)

lemma not_endsIn {name : String} {c d : Char} (h : EndsIn c name) (hcd : c ≠ d) :
    ¬ EndsIn d name := by
  intro hd
  exact hcd (Option.some.inj (h.symm.trans hd))

lemma forall_ne_and_notMem_iff {xs ys : List String} {name : String} :
    (∀ x ∈ xs, x ≠ name ∧ x ∉ ys) ↔ name ∉ xs ∧ xs.Disjoint ys := by
  constructor
  · exact fun h => ⟨fun hn => (h _ hn).1 rfl,fun x hx => (h x hx).2⟩
  · rintro ⟨hn,hd⟩ x hx
    exact ⟨fun he => hn (he ▸ hx),hd hx⟩

lemma not_endsIn_reservedNames {name : String} (h : name ∈ reservedNames o) :
    ¬ EndsIn 'n' name ∧ ¬ EndsIn 's' name := by
  have hends : ∀ x ∈ ["React","Theme"], ¬ EndsIn 'n' x ∧ ¬ EndsIn 's' x := by
    unfold EndsIn
    decide
  exact hends name ((reservedNames_sublist o).subset h)

/-- An icon ends in `n`, the type of the props in `s`, and what is reserved in neither. -/
lemma disjoint_kinds (hm : MarkupNames o.backend m) :
    (reservedNames o).Disjoint (m.icons.map (·.ident)) ∧
      (reservedNames o).Disjoint (propsNames o m.component) ∧
      (m.icons.map (·.ident)).Disjoint (propsNames o m.component) := by
  have hicons : ∀ x ∈ m.icons.map (·.ident), EndsIn 'n' x :=
    List.forall_mem_map.mpr fun i hi => (hm.icons i hi).2
  refine ⟨List.disjoint_symm ?_,List.disjoint_symm ?_,?_⟩
  · exact disjoint_of_endsIn hicons fun x hx => (not_endsIn_reservedNames hx).1
  · exact disjoint_of_endsIn (fun _ => endsIn_propsNames) fun x hx => (not_endsIn_reservedNames hx).2
  · exact disjoint_of_endsIn hicons fun x hx => not_endsIn (endsIn_propsNames hx) (by decide)

/-- Among the names that begin with a capital, only components can have the name of another kind. -/
lemma nodup_capitalNames_iff (hm : MarkupNames o.backend m) (hcomponents : m.components.Nodup)
    (hicons : (m.icons.map (·.ident)).Nodup) :
    (capitalNames o m).Nodup ↔
      (∀ name ∈ reservedNames o, name ≠ m.component ∧ name ∉ m.components) ∧
      (∀ i ∈ m.icons, i.ident ≠ m.component ∧ i.ident ∉ m.components) ∧
      (o.typescript = true → m.component ++ "Props" ∉ m.components) := by
  have hreserved : (reservedNames o).Nodup :=
    (reservedNames_sublist o).nodup (by decide)
  have hprops : (propsNames o m.component).Nodup := by
    unfold propsNames
    split <;> simp
  obtain ⟨hri,hrp,hip⟩ := disjoint_kinds hm
  have hpn : m.component ∉ propsNames o m.component := by
    rw [mem_propsNames]
    rintro ⟨-,he⟩
    simpa using congrArg String.length he
  have hcn : m.component ∉ m.components := fun h => (hm.components _ h).2 rfl
  simp only [capitalNames, List.nodup_append', List.disjoint_append_right, List.disjoint_singleton,
    hreserved, hprops, hri, hrp, hip, hpn, hcn, hcomponents, hicons, List.nodup_singleton,
    true_and, and_true, not_false_eq_true]
  have hicon : (∀ i ∈ m.icons, i.ident ≠ m.component ∧ i.ident ∉ m.components) ↔
      m.component ∉ m.icons.map (·.ident) ∧ m.components.Disjoint (m.icons.map (·.ident)) := by
    rw [List.disjoint_comm, ← forall_ne_and_notMem_iff, List.forall_mem_map]
  have hprop : (o.typescript = true → m.component ++ "Props" ∉ m.components) ↔
      m.components.Disjoint (propsNames o m.component) := by
    unfold propsNames
    split <;> simp [*]
  rw [forall_ne_and_notMem_iff, hicon, hprop]
  tauto

/-- A styled component can have the name of a component, an icon, or the props; a style object has
no name that begins with a capital. -/
lemma notMem_capitalNames_iff (hm : MarkupNames o.backend m) {e : StyleDefinition}
    (he : e ∈ m.definitions) :
    e.name ∉ capitalNames o m ↔ (o.backend = .styledComponents →
      e.name ≠ m.component ∧ e.name ∉ m.components ∧ e.name ∉ m.icons.map (·.ident) ∧
        (o.typescript = true → e.name ≠ m.component ++ "Props")) := by
  obtain ⟨-,hb,hname⟩ := hm.definitions e he
  have hreserved : e.name ∉ reservedNames o := fun hmem =>
    (by decide : ∀ x ∈ ["React","Theme"], 'S' ∉ x.toList) _
      ((reservedNames_sublist o).subset hmem) (hname.mark hb)
  obtain hb | hb := hb
  · simp only [hb, capitalNames, List.mem_append, hreserved, mem_propsNames, List.mem_singleton]
    tauto
  · obtain ⟨c,cs,hchars,hc⟩ := hname.first hb
    have hcapital := mt (isComponentName_of_mem_capitalNames hm) (not_isComponentName hchars hc)
    simp [hb, hcapital]

/-- The name that a scheme imports for its styles is in lowercase. -/
lemma lowercase_of_mem_libraryNames {own : Option String} (ho : own ∈ libraryNames) {name : String}
    (hn : name ∈ own.toList) :
    'S' ∉ name.toList ∧ ∃ c cs, name.toList = c :: cs ∧ c.isUpper = false := by
  simp only [libraryNames, List.mem_cons, List.not_mem_nil, or_false] at ho
  obtain rfl | rfl | rfl | rfl := ho
  · nomatch hn
  all_goals
    obtain rfl := List.mem_singleton.mp hn
    exact ⟨by decide,_,_,rfl,by decide⟩

/-- All names together are different exactly if none of those clash that can. -/
lemma nodup_names_iff (hm : MarkupNames o.backend m) (hcomponents : m.components.Nodup)
    (hicons : (m.icons.map (·.ident)).Nodup) (hdefinitions : (m.definitions.map (·.name)).Nodup)
    {own : Option String} (ho : own ∈ libraryNames) :
    (own.toList ++ (m.definitions.map (·.name) ++ capitalNames o m)).Nodup ↔ Unclashed o m := by
  have hown : own.toList.Nodup := by cases own <;> simp
  -- every definition has a capital in its name, though only a styled component begins with it
  have hdefs : own.toList.Disjoint (m.definitions.map (·.name)) := by
    intro name hn hd
    obtain ⟨e,he,rfl⟩ := List.mem_map.mp hd
    obtain ⟨-,hb,hname⟩ := hm.definitions e he
    exact (lowercase_of_mem_libraryNames ho hn).1 (hname.mark hb)
  have hcapitals : own.toList.Disjoint (capitalNames o m) := by
    intro name hn hc
    obtain ⟨-,c,cs,hchars,hlow⟩ := lowercase_of_mem_libraryNames ho hn
    exact not_isComponentName hchars hlow (isComponentName_of_mem_capitalNames hm hc)
  rw [List.nodup_append', List.nodup_append', List.disjoint_append_right, List.disjoint_left,
    List.forall_mem_map, nodup_capitalNames_iff hm hcomponents hicons]
  constructor
  · rintro ⟨-,⟨-,⟨hr,hi,hp⟩,hs⟩,-⟩
    exact ⟨hr,hi,hp,fun hb e he => (notMem_capitalNames_iff hm he).mp (hs e he) hb⟩
  · rintro ⟨hr,hi,hp,hs⟩
    have hstyled : ∀ e ∈ m.definitions, e.name ∉ capitalNames o m := fun e he =>
      (notMem_capitalNames_iff hm he).mpr fun hb => hs hb e he
    exact ⟨hown,⟨hdefinitions,⟨hr,hi,hp⟩,hstyled⟩,hdefs,hcapitals⟩

end

/-! ## The names of a file -/

section
variable {o : ConvertOptions} {d : Document} {t : Target}

lemma names_styleLines (o : ConvertOptions) (d : Document) (t : Target) :
    ∃ own ∈ libraryNames, (t.styleLines o d).filterMap importedName? =
      own.toList ++ themeNames o.themed o.backend := by
  obtain ⟨own,ho,hnames⟩ := exists_names_styleImports (Target.setting o d).scheme (t.sheet o d).1
    (t.sheet o d).2.isSome
  refine ⟨own,ho,?_⟩
  rw [Target.styleLines, List.filterMap_filter]
  exact hnames

/-- The names of all imports. -/
lemma names_importLines {m : DesignCompiler.Markup} (hm : MarkupNames o.backend m)
    (lines : List String) :
    (importLines o m.component m lines).filterMap importedName? =
      "React" :: (lines.filterMap importedName? ++ m.components ++ m.icons.map (·.ident) ++
        propsNames o m.component) := by
  have hreact : importedName? "import React from 'react';" = some "React" := by decide +kernel
  have hcomponents : (m.components.map fun c =>
      "import \x7b " ++ c ++ " \x7d from './" ++ c ++ "';").filterMap importedName? =
        m.components := by
    refine (filterMap_map_eq (g := id) fun c hc => ?_).trans (List.map_id _)
    exact importedName?_componentName "\x7b " ("\x7d from './" ++ c ++ "';") (by decide)
      (by simp [String.toList_append]) (hm.components c hc).1
  have hicons : (m.icons.map fun i =>
      "import " ++ i.ident ++ " from '" ++ i.url ++ "';").filterMap importedName? =
        m.icons.map (·.ident) := by
    refine filterMap_map_eq fun i hi => ?_
    exact importedName?_componentName "" ("from '" ++ i.url ++ "';") (by decide)
      (by simp [String.toList_append]) (hm.icons i hi).1
  have hprops : importedName? ("import type \x7b " ++ m.component ++ "Props \x7d from './" ++
      m.component ++ ".types';") = some (m.component ++ "Props") :=
    importedName?_componentName "type \x7b " ("\x7d from './" ++ m.component ++ ".types';")
      (by decide) (by simp [String.toList_append]) (isComponentName_propsName hm.component)
  obtain ⟨hpragma,hrest⟩ := filterMap_filter_isPragma lines
  simp only [importLines, List.filterMap_append, hpragma, hrest, hcomponents, hicons,
    List.filterMap_cons_some hreact]
  unfold propsNames
  split <;> simp [hprops]

lemma names_definitions {m : DesignCompiler.Markup} (hm : MarkupNames o.backend m) :
    m.definitions.filterMap (definedName? ·.source) = m.definitions.map (·.name) := by
  rw [← List.filterMap_eq_map]
  exact List.filterMap_congr fun e he => (hm.definitions e he).1

/-- The names of a target's file, those in lowercase first. -/
lemma moduleNames_perm (ht : IsComponentName t.name) :
    ∃ own ∈ libraryNames, ((t.preamble o d).moduleNames t.name).Perm
      (own.toList ++ ((t.built o d).2.definitions.map (·.name) ++
        capitalNames o (t.built o d).2)) := by
  have hm : MarkupNames o.backend (t.built o d).2 := markupNames_built ht
  obtain ⟨own,ho,hown⟩ := names_styleLines o d t
  refine ⟨own,ho,?_⟩
  have hnames : (t.preamble o d).moduleNames t.name =
      "React" :: (own.toList ++ themeNames o.themed o.backend ++ (t.built o d).2.components ++
        (t.built o d).2.icons.map (·.ident) ++ propsNames o t.name) ++
          (t.built o d).2.definitions.map (·.name) ++ [t.name] := by
    rw [← hown, ← names_definitions hm]
    exact congrArg (· ++ _ ++ [t.name]) (names_importLines hm (t.styleLines o d))
  have hcomponent : (t.built o d).2.component = t.name := rfl
  rw [hnames, capitalNames, reservedNames, hcomponent, List.perm_iff_count]
  intro name
  simp only [List.count_append, List.count_cons, List.cons_append]
  omega

/-- The names at the top of a target's file are pairwise different exactly if none of those clash
that can: the names of components and what is fixed, of icons and components, of the type of the
props and a component, and of styled components and all of these. -/
theorem module_names_nodup_iff {out : ConversionOutput} (hc : convert o d = .ok out)
    (ht : t ∈ nameTargets [] (targetNodes o d).1) :
    ∃ f ∈ out.files, f.path = o.componentPath (t.name ++ "." ++ o.componentExt) ∧
      f.content = (t.preamble o d).fileText o (t.built o d).2 ∧
      (((t.preamble o d).moduleNames t.name).Nodup ↔ Unclashed o (t.built o d).2) := by
  have hname : IsComponentName t.name := ((nodup_nameTargets _ _).2 t ht).1
  have hm : MarkupNames o.backend (t.built o d).2 := markupNames_built hname
  obtain ⟨own,ho,hperm⟩ := moduleNames_perm (o := o) (d := d) hname
  have hcomponents : (t.built o d).2.components.Nodup := by
    rw [← List.map_id (t.built o d).2.components]
    exact nodup_firstByKey id [] _
  obtain ⟨f,hf,-,hpath,hcontent⟩ := exists_file_of_target hc ht
  refine ⟨f,hf,hpath,hcontent,?_⟩
  rw [hperm.nodup_iff]
  exact nodup_names_iff hm hcomponents (nodup_firstByKey _ _ _) (nodup_firstByKey _ _ _) ho

end

/-- A component that shows a star. -/
def starTarget (label name : String) : Target :=
  ⟨⟨.bare "0" label .component,[.node (.bare "1" "Star" .star) []]⟩,name⟩

/-- Options with a file for the star. -/
def starOptions : ConvertOptions :=
  { ConvertOptions.standard with assets := [("1","star.svg")] }

/-- The names in the file of a badge with a star are different. -/
theorem module_names_nodup_iff_badge :
    let t := starTarget "Badge" "Badge"
    let d := Document.ofRoot t.node
    ∃ out, convert starOptions d = .ok out ∧
      (∃ f ∈ out.files, f.path = "components/Badge.tsx" ∧
        f.content = (t.preamble starOptions d).fileText starOptions (t.built starOptions d).2) ∧
      ((t.preamble starOptions d).moduleNames "Badge").Nodup := by
  intro t d
  obtain ⟨out,hc⟩ : ∃ out, convert starOptions d = .ok out :=
    exists_of_isOk (by decide +kernel)
  have hname : Naming.fresh [] (Naming.componentIdentifier "Badge") = "Badge" := by decide +kernel
  have ht : nameTargets [] (targetNodes starOptions d).1 = [t] := by
    change nameTargets [] [t.node] = _
    rw [nameTargets_cons hname rfl]
    rfl
  have hpath : starOptions.componentPath "Badge.tsx" = "components/Badge.tsx" := by decide +kernel
  have hunclashed : Unclashed starOptions (t.built starOptions d).2 :=
    ⟨by decide +kernel,by decide +kernel,by decide +kernel,by decide +kernel⟩
  obtain ⟨f,hf,hfile,hcontent,hnodup⟩ :=
    module_names_nodup_iff hc (ht ▸ List.mem_singleton_self t)
  exact ⟨out,hc,⟨f,hf,hfile.trans hpath,hcontent⟩,hnodup.mpr hunclashed⟩

/-- A component that is called a star icon shows an icon of its own name. -/
theorem icon_named_as_component :
    let t := starTarget "Star Icon" "StarIcon"
    let d := Document.ofRoot t.node
    (convert starOptions d).isOk = true ∧
      (nameTargets [] (targetNodes starOptions d).1).map (·.name) = ["StarIcon"] ∧
      (t.preamble starOptions d).moduleNames "StarIcon" =
        ["React","StarIcon","StarIconProps","StarIcon"] ∧
      ¬ ((t.preamble starOptions d).moduleNames "StarIcon").Nodup := by
  decide +kernel

end DesignCompiler.Project
