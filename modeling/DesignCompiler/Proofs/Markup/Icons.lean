import DesignCompiler.Proofs.Markup.Sights

/-! The icons of a component and their imports. An icon is written with the identifier of its
layer's name, and the first icon of an identifier says which file is imported under it. -/
namespace DesignCompiler.Markup
open Styling Jsx

/-- The import that an icon needs to show its own file. -/
def Shown.iconImport? (o : Project.ConvertOptions) : Shown → Option IconImport
  | element h => if h.kind = .icon then Markup.iconImport? o h else none
  | template _ => none

/-- The imports that the icons of a tree need, in the order in which the icons are shown. -/
def iconUses (o : Project.ConvertOptions) (e : Element) : List IconImport :=
  (shown e).filterMap (Shown.iconImport? o)

/-- What is imported for an icon is one of the asset files, under the identifier of a name. -/
lemma exists_of_mem_iconUses {o : Project.ConvertOptions} {e : Element} {i : IconImport}
    (hi : i ∈ iconUses o e) :
    ∃ name, ∃ a ∈ o.assets, i = ⟨iconIdentifier name,o.assetUrl a.2⟩ := by
  obtain ⟨s,-,hs⟩ := List.mem_filterMap.mp hi
  cases s with
  | template => nomatch hs
  | element h =>
    obtain ⟨-,hs⟩ := Option.ite_none_right_eq_some.mp hs
    obtain ⟨file,hfile,rfl⟩ := Option.map_eq_some_iff.mp hs
    obtain ⟨a,ha,rfl⟩ := Option.map_eq_some_iff.mp hfile
    exact ⟨h.name,a,List.mem_of_find?_eq_some ha,rfl⟩

/-- The icon that is shown. -/
def Sight.icon? : Sight → Option IconImport
  | icon i => some i
  | component _ _ | template _ => none

section
variable {st : Setting} {e : Element}

lemma icon?_sight? (st : Setting) (s : Shown) :
    (s.sight? st).bind Sight.icon? = s.iconImport? st.options := by
  cases s with
  | template => rfl
  | element h =>
    rw [Shown.sight?, Shown.iconImport?]
    cases h.kind
    case icon => cases iconImport? st.options h <;> rfl
    case componentInstance =>
      cases h.instanceOf.filter fun i => st.registry.contains i.componentId <;> rfl
    all_goals rfl

/-- The icons in the markup of an element are those that the tree shows, each with its own file. -/
theorem icons_markup (st : Setting) (b : Building) (keyed : Bool) (e : Element) :
    (markup st b keyed e).2.sights.filterMap Sight.icon? = iconUses st.options e := by
  rw [sights_markup st e, List.filterMap_filterMap, iconUses]
  exact List.filterMap_congr fun s _ => icon?_sight? st s

lemma icons_build (st : Setting) (p : Progress) (component : String) (root : Element) :
    (build st p component root).2.icons =
      firstByKey (·.ident) [] (iconUses st.options root) := by
  rw [Markup.icons, filterMap_parts (g := Sight.icon?) (fun j => by cases j <;> rfl)]
  exact congrArg _ (icons_markup st _ _ root)

end

/-- Every icon of a component is written with its identifier, which is imported exactly once. What
is imported is the file of the icon exactly if that is the file of the first icon with its
identifier. So all icons show their own files if and only if those with one identifier have the same
file. -/
theorem icons_show_own_files_iff (st : Setting) (p : Progress) (component : String)
    (root : Element) :
    let m := (build st p component root).2
    let uses := iconUses st.options root
    m.root.sights.filterMap Sight.icon? = uses ∧ (m.icons.map (·.ident)).Nodup ∧
      (∀ u ∈ uses, (∃ i ∈ m.icons, i.ident = u.ident) ∧
        (u ∈ m.icons ↔ uses.find? (·.ident == u.ident) = some u)) ∧
      ((∀ u ∈ uses, u ∈ m.icons) ↔
        ∀ u ∈ uses, ∀ v ∈ uses, u.ident = v.ident → u.url = v.url) := by
  intro m uses
  have hicons : m.icons = firstByKey (·.ident) [] uses := icons_build st p component root
  refine ⟨icons_markup st _ _ root,?_,?_,?_⟩
  · rw [hicons]
    exact nodup_firstByKey _ _ _
  · intro u hu
    rw [hicons]
    refine ⟨exists_mem_firstByKey hu List.not_mem_nil,?_⟩
    rw [mem_firstByKey_iff]
    exact and_iff_right List.not_mem_nil
  · rw [hicons]
    constructor
    · intro hown u hu v hv he
      have hfu := (mem_firstByKey_iff.mp (hown u hu)).2
      have hfv := (mem_firstByKey_iff.mp (hown v hv)).2
      rw [he, hfv] at hfu
      rw [Option.some.inj hfu]
    · intro hsame u hu
      obtain ⟨i,hi,he⟩ : ∃ i ∈ firstByKey IconImport.ident [] uses, i.ident = u.ident :=
        exists_mem_firstByKey hu List.not_mem_nil
      have hurl := hsame i (mem_of_mem_firstByKey hi) u hu he
      have hiu : i = u := by
        cases i
        cases u
        cases he
        cases hurl
        rfl
      exact hiu ▸ hi

/-- A row of two icons that are layers of one name. -/
def arrowRow : Element :=
  .mk (.bare "0" .component "div" "Row") [.leaf (.bare "1" .icon "svg" "arrow"),
    .leaf (.bare "2" .icon "svg" "arrow")]

/-- The markup of the row with files for its icons. -/
def arrowMarkup (assets : List (String × String)) : DesignCompiler.Markup :=
  (build ⟨⟨.standard,false,.standard⟩,.empty,{ Project.ConvertOptions.standard with
    assets := assets }⟩ .start "Row" arrowRow).2

/-- Both arrows of a row show the one file that they have. -/
theorem icons_show_own_files_iff_arrows :
    ∀ u ∈ iconUses { Project.ConvertOptions.standard with
        assets := [("1","arrow.svg"),("2","arrow.svg")] } arrowRow,
      u ∈ (arrowMarkup [("1","arrow.svg"),("2","arrow.svg")]).icons := by
  obtain ⟨-,-,-,hown⟩ := icons_show_own_files_iff ⟨⟨.standard,false,.standard⟩,.empty,
    { Project.ConvertOptions.standard with assets := [("1","arrow.svg"),("2","arrow.svg")] }⟩
    .start "Row" arrowRow
  exact hown.mpr (by decide +kernel)

/-- Two arrows with different files are both written with the identifier under which the file of the
first is imported. -/
theorem icon_shows_other_file :
    let o := { Project.ConvertOptions.standard with
      assets := [("1","left.svg"),("2","right.svg")] }
    let m := arrowMarkup [("1","left.svg"),("2","right.svg")]
    iconUses o arrowRow = [⟨"ArrowIcon","/assets/left.svg"⟩,⟨"ArrowIcon","/assets/right.svg"⟩] ∧
      m.icons = [⟨"ArrowIcon","/assets/left.svg"⟩] := by
  decide +kernel

end DesignCompiler.Markup
