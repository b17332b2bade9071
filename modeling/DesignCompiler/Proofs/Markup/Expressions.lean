import DesignCompiler.Proofs.FromDesign.Instances
import DesignCompiler.Proofs.Markup.Sights

/-! What stands in generated code where an expression is expected: as the result of a component, and
as the result of a callback that renders the members of a collection. Markup in braces can stand
inside an element, but it is no expression for one. -/
namespace DesignCompiler

namespace Markup
open Styling Jsx

/-- What the callbacks of markup return: the templates of its collections. -/
def Jsx.callbacks (j : Jsx) : List Jsx :=
  j.subtrees.filterMap fun
    | .each _ template => some template
    | _ => none

/-- The markup that stands where an expression is expected. -/
def expressions (m : DesignCompiler.Markup) : List Jsx := m.root :: m.root.callbacks

/-- The elements of a tree that are shown as templates. -/
def templates (e : Element) : List ElementHead :=
  (shown e).filterMap fun
    | .template h => some h
    | .element _ => none

/-- An element begins with its tag, at whatever depth it stands; all other markup with a brace. -/
theorem lines_eq_cons (unit : String) (depth : ℕ) (j : Jsx) : ∃ inner rest,
    j.lines unit depth =
      (indentation unit depth ++ (if j.isElement then "<" else "\x7b") ++ inner) :: rest := by
  cases j with
  | comment remark =>
    have hbrace : "\x7b/* " = "\x7b" ++ "/* " := rfl
    exact ⟨"/* " ++ commentText remark ++ " */\x7d",[],
      by rw [lines, commentMarkup, hbrace]; simp only [← String.append_assoc]; rfl⟩
  | icon i keyed =>
    exact ⟨i.ident ++ keyText keyed ++ " />",[],by simp [lines, isElement, String.append_assoc]⟩
  | component tag overrides keyed =>
    exact ⟨tag ++ keyText keyed ++ String.join (overrides.map _) ++ " />",[],
      by simp [lines, isElement, String.append_assoc]; rfl⟩
  | void o => exact ⟨o.inner ++ " />",[],by simp [lines, isElement, String.append_assoc]⟩
  | text o content =>
    exact ⟨o.inner ++ ">" ++ content.text ++ "</" ++ o.name ++ ">",[],
      by simp [lines, isElement, String.append_assoc]⟩
  | inlined o child =>
    exact ⟨o.inner ++ ">" ++ String.join (child.lines unit 0) ++ "</" ++ o.name ++ ">",[],
      by simp [lines, isElement, String.append_assoc]⟩
  | block o children =>
    exact ⟨o.inner ++ ">",_,by simp [lines, isElement, String.append_assoc]; rfl⟩
  | each c template =>
    exact ⟨c.name ++ ".map((item, index) => (",_,
      by simp [lines, isElement, String.append_assoc]; rfl⟩

/-- The templates in the markup of an element are elements as far as those of the tree are rendered
as elements. -/
lemma map_isElement_callbacks (st : Setting) (b : Building) (keyed : Bool) (e : Element) :
    (markup st b keyed e).2.callbacks.map isElement = (templates e).map (rendersElement st) := by
  have hsights : (markup st b keyed e).2.callbacks.map isElement =
      (markup st b keyed e).2.sights.filterMap fun
        | .template isElement => some isElement
        | _ => none := by
    rw [callbacks, sights, List.map_filterMap, List.filterMap_filterMap]
    exact List.filterMap_congr fun j _ => by cases j <;> rfl
  rw [hsights, sights_markup st e, List.filterMap_filterMap, templates, List.map_filterMap]
  refine List.filterMap_congr fun s _ => ?_
  cases s with
  | template h => rfl
  | element h =>
    rw [Shown.sight?]
    cases h.kind
    case icon => cases iconImport? st.options h <;> rfl
    case componentInstance =>
      cases h.instanceOf.filter fun i => st.registry.contains i.componentId <;> rfl
    all_goals rfl

end Markup

namespace FromDesign
open Document

/-- The root of a component is a component, also when the component is a set of variants. -/
lemma kind_build {n : Node} (hk : n.attrs.kind = .component ∨ n.attrs.kind = .componentSet)
    (registry : ComponentRegistry) (styles : Option (List (String × StyleMeta))) :
    (build registry styles n).1.head.kind = .component := by
  have hview := congrArg Prod.fst (instanceView_build registry styles n)
  have hclass : (rootClass n).kind = .component := by
    unfold rootClass
    split
    · rfl
    · rw [classify]
      obtain hk | hk := hk <;> rw [hk] <;> rfl
  rw [← hclass]
  exact hview.trans (headOf_assemble _ _ _ _ _).kind

end FromDesign

namespace Markup
open Styling Jsx Document

/-- Where the code of a component expects an expression, there is an element, which begins with its
tag, unless an icon has no asset or an instance no known component: then a brace stands there. The
result of a component is always an element. -/
theorem expressions_are_elements_iff (st : Setting) (p : Progress) (component : String)
    (styles : Option (List (String × StyleMeta))) (n : Node) :
    let root := (FromDesign.build st.registry styles n).1
    let m := (build st p component root).2
    (expressions m).map isElement = (root.head :: templates root).map (rendersElement st) ∧
      (∀ j ∈ expressions m, ∀ unit depth, ∃ inner rest, j.lines unit depth =
        (indentation unit depth ++ (if j.isElement then "<" else "\x7b") ++ inner) :: rest) ∧
      (n.attrs.kind = .component ∨ n.attrs.kind = .componentSet → m.root.isElement = true) := by
  intro root m
  have hroot : m.root.isElement = rendersElement st root.head := isElement_markup _ _ _
  refine ⟨?_,fun j _ unit depth => lines_eq_cons unit depth j,?_⟩
  · rw [expressions, List.map_cons, List.map_cons, hroot]
    exact congrArg _ (map_isElement_callbacks st _ _ root)
  · intro hk
    rw [hroot, rendersElement, FromDesign.kind_build hk]

/-- A rating with three stars, of which the first is the template. -/
def ratingNode : Node :=
  ⟨.bare "0" "Rating" .component,[.node (.bare "1" "Star 1" .star) [],
    .node (.bare "2" "Star 2" .star) [],.node (.bare "3" "Star 3" .star) []]⟩

/-- What the rating is rendered with: the standard options, and files for some of its stars. -/
def ratingSetting (assets : List (String × String)) : Setting :=
  ⟨⟨.standard,false,.standard⟩,.empty,{ Project.ConvertOptions.standard with assets := assets }⟩

/-- The markup of the rating. -/
def ratingMarkup (assets : List (String × String)) : DesignCompiler.Markup :=
  (build (ratingSetting assets) .start "Rating"
    (FromDesign.build (ratingSetting assets).registry none ratingNode).1).2

/-- With a file for the first star, the callback for the stars returns an element. -/
theorem expressions_are_elements_iff_rating :
    (ratingMarkup [("1","star.svg")]).expressions.map isElement = [true,true] ∧
      (ratingMarkup [("1","star.svg")]).root.isElement = true := by
  obtain ⟨hexpressions,-,hroot⟩ := expressions_are_elements_iff (ratingSetting [("1","star.svg")])
    .start "Rating" none ratingNode
  refine ⟨?_,hroot (.inl rfl)⟩
  rw [ratingMarkup, hexpressions]
  decide +kernel

/-- Without files, the callback for the stars returns a comment. -/
theorem comment_as_expression :
    (ratingMarkup []).expressions.map isElement = [true,false] ∧
      (ratingMarkup []).text "  " 2 = "    <div className=\"relative\">\n" ++
        "      \x7bstarItems.map((item, index) => (\n" ++
        "        \x7b/* icon: Star 1 */\x7d\n" ++
        "      ))\x7d\n" ++
        "    </div>" := by
  decide +kernel

end Markup

end DesignCompiler
