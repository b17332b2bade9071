import DesignCompiler.Proofs.Markup.Tree

/-! What markup shows beside the elements that it opens: icons, components, and templates for the
members of a collection. The tree of elements tells all of it, in order, whatever the styling. -/
namespace DesignCompiler.Markup
open Styling Jsx

/-! ## In markup -/

/-- Whether markup is an element. A comment and the elements of a collection stand in braces. -/
def Jsx.isElement : Jsx → Bool
  | .comment _ | .each _ _ => false
  | .icon _ _ | .component _ _ _ | .void _ | .text _ _ | .inlined _ _ | .block _ _ => true

/-- What markup shows in itself. -/
inductive Sight where
  | icon (i : IconImport)
  | component (tag : String) (overrides : List (String × OverrideValue))
  /-- A template, and whether it is an element. -/
  | template (isElement : Bool)

/-- What markup shows, apart from the markup inside it. -/
def Jsx.sight? : Jsx → Option Sight
  | .icon i _ => some (.icon i)
  | .component tag overrides _ => some (.component tag overrides)
  | .each _ template => some (.template template.isElement)
  | .comment _ | .void _ | .text _ _ | .inlined _ _ | .block _ _ => none

/-- All that markup shows. -/
def Jsx.sights (j : Jsx) : List Sight := j.subtrees.filterMap sight?

/-- What is asked of the parts alone can be asked of what is shown. -/
lemma filterMap_parts {α : Type} {f : Part → Option α} {g : Sight → Option α}
    (hf : ∀ j : Jsx, j.ownParts.filterMap f = (j.sight?.bind g).toList) (j : Jsx) :
    j.parts.filterMap f = j.sights.filterMap g := by
  rw [parts_eq_flatMap_ownParts, List.filterMap_flatMap, sights, List.filterMap_filterMap,
    List.filterMap_eq_flatMap_toList]
  exact List.flatMap_congr fun j _ => hf j

/-! ## In a tree of elements -/

/-- Whether an element refers to a component that is known. -/
def refersToKnown (r : ComponentRegistry) (h : ElementHead) : Bool :=
  h.instanceOf.any fun i => r.contains i.componentId

/-- The import of an icon that has an asset. -/
def iconImport? (o : Project.ConvertOptions) (h : ElementHead) : Option IconImport :=
  (o.asset? h.sourceId).map fun file => ⟨iconIdentifier h.name,o.assetUrl file⟩

/-- Whether an element is rendered as one: an icon needs an asset, an instance a component. -/
def rendersElement (st : Setting) (h : ElementHead) : Bool :=
  match h.kind with
  | .icon => (st.options.asset? h.sourceId).isSome
  | .componentInstance => refersToKnown st.registry h
  | .text | .image | .divider | .container | .component => true

/-- What is shown of a tree. -/
inductive Shown where
  | element (h : ElementHead)
  /-- An element as the template for all members of a repetition. -/
  | template (h : ElementHead)

namespace Shown

def head : Shown → ElementHead
  | element h | template h => h

/-- What the markup of an element shows, apart from its children. -/
def sight? (st : Setting) : Shown → Option Sight
  | element h =>
    match h.kind with
    | .icon => (iconImport? st.options h).map .icon
    | .componentInstance =>
      (h.instanceOf.filter fun i => st.registry.contains i.componentId).map
        fun i => .component h.tag i.overrides
    | .text | .image | .divider | .container | .component => none
  | template h => some (.template (rendersElement st h))

end Shown

mutual

/-- What is shown of an element and inside it. -/
def shown : Element → List Shown
  | .mk h es =>
    .element h ::
      if h.kind.holdsChildren then
        shownFrom (if standsOnOneLine es then none else repetition? h) 0 es
      else []

/-- What is shown below a container, whose children are numbered from `i` on. -/
def shownFrom (r : Option Repeat) (i : ℕ) : List Element → List Shown
  | [] => []
  | e :: es =>
    (if isRepeated r i then []
      else (if isTemplate r i then [.template e.head] else []) ++ shown e) ++ shownFrom r (i+1) es

end

section
variable {e : Element} {es : List Element} {s : Shown}

lemma exists_of_mem_shownFrom {r : Option Repeat} {i : ℕ} (hs : s ∈ shownFrom r i es) :
    ∃ e ∈ es, s = .template e.head ∨ s ∈ shown e := by
  induction es generalizing i with
  | nil => nomatch hs
  | cons e es ih =>
    rw [shownFrom, List.mem_append] at hs
    obtain hs | hs := hs
    · refine ⟨e,List.mem_cons_self,?_⟩
      split_ifs at hs
      · nomatch hs
      · simpa using hs
      · exact .inr (by simpa using hs)
    · obtain ⟨f,hf,hs⟩ := ih hs
      exact ⟨f,List.mem_cons_of_mem e hf,hs⟩

/-- Whatever is shown stands in the tree. -/
theorem head_mem_walk_of_mem_shown (hs : s ∈ shown e) : s.head ∈ e.walk := by
  induction e with
  | mk h es ih =>
    rw [shown, List.mem_cons] at hs
    rw [Element.walk_mk, List.mem_cons, List.mem_flatMap]
    obtain rfl | hs := hs
    · exact .inl rfl
    · split at hs
      · obtain ⟨e,he,rfl | hs⟩ := exists_of_mem_shownFrom hs
        · refine .inr ⟨e,he,?_⟩
          rw [Element.walk_eq]
          exact List.mem_cons_self
        · exact .inr ⟨e,he,ih e he hs⟩
      · nomatch hs

end

/-! ## Markup shows what is shown of the tree -/

/-- All that a list of markup shows. -/
def sightsOf (js : List Jsx) : List Sight := js.flatMap sights

lemma sightsOf_append (js ks : List Jsx) : sightsOf (js ++ ks) = sightsOf js ++ sightsOf ks :=
  List.flatMap_append

lemma sightsOf_comments (h : ElementHead) : sightsOf (comments h) = [] := by
  rw [sightsOf, comments, List.flatMap_map, List.flatMap_eq_nil_iff]
  exact fun _ _ => rfl

@[simp] lemma sights_inlined (o : Opening) (j : Jsx) : (Jsx.inlined o j).sights = j.sights := by
  rw [sights, subtrees, List.filterMap_cons_none rfl, sights]

@[simp] lemma sights_block (o : Opening) (js : List Jsx) :
    (Jsx.block o js).sights = sightsOf js := by
  rw [sights, subtrees, List.filterMap_cons_none rfl, allSubtrees_eq_flatMap,
    List.filterMap_flatMap]
  rfl

@[simp] lemma sights_each (c : Collection) (j : Jsx) :
    (Jsx.each c j).sights = .template j.isElement :: j.sights := by
  rw [sights, subtrees]
  exact List.filterMap_cons_some rfl

lemma sights_textMarkup (o : Opening) (c : TextContent) : (textMarkup o c).sights = [] := by
  unfold textMarkup
  split <;> rfl

lemma isElement_textMarkup (o : Opening) (c : TextContent) :
    (textMarkup o c).isElement = true := by
  unfold textMarkup
  split <;> rfl

section
variable {st : Setting} {e : Element}

/-- The markup of an element is an element unless an icon has no asset, or an instance no
component. -/
theorem isElement_markup (b : Building) (keyed : Bool) (e : Element) :
    (markup st b keyed e).2.isElement = rendersElement st e.head := by
  obtain ⟨h,es⟩ := e
  rw [markup, rendersElement, Element.head]
  cases h.kind
  case text => exact isElement_textMarkup _ _
  case image | divider => rfl
  case icon =>
    dsimp only [iconMarkup]
    cases st.options.asset? h.sourceId <;> rfl
  case componentInstance =>
    dsimp only [instanceMarkup]
    rw [refersToKnown, ← Option.isSome_filter]
    cases h.instanceOf.filter fun i => st.registry.contains i.componentId <;> rfl
  case container | component =>
    dsimp only
    split_ifs <;> rfl

/-- Wherever the building stands, the markup of an element shows what is shown of the element. -/
def MarkupShows (st : Setting) (e : Element) : Prop :=
  ∀ (b : Building) (keyed : Bool),
    (markup st b keyed e).2.sights = (shown e).filterMap (Shown.sight? st)

/-- The markup of a child shows the child, and that it is a template if it is one. -/
lemma sightsOf_childMarkup (he : MarkupShows st e) (b : Building) (r : Option Repeat) (i : ℕ) :
    sightsOf (childMarkup st b r i e).2 =
      (if isRepeated r i then []
        else (if isTemplate r i then [.template e.head] else []) ++ shown e).filterMap
          (Shown.sight? st) := by
  rw [childMarkup_eq]
  split_ifs
  · rfl
  · rw [sightsOf_append, sightsOf_comments, List.nil_append, sightsOf, List.flatMap_singleton,
      sights_each, he, isElement_markup]
    rfl
  · rw [sightsOf_append, sightsOf_comments, List.nil_append, sightsOf, List.flatMap_singleton, he]
    rfl

lemma sightsOf_childrenMarkup {es : List Element} (hes : ∀ e ∈ es, MarkupShows st e)
    (b : Building) (r : Option Repeat) (i : ℕ) :
    sightsOf (childrenMarkup st b r i es).2 =
      (shownFrom r i es).filterMap (Shown.sight? st) := by
  induction es generalizing b i with
  | nil =>
    rw [shownFrom, childrenMarkup]
    rfl
  | cons e es ih =>
    obtain ⟨he,hes⟩ := List.forall_mem_cons.mp hes
    rw [childrenMarkup_cons, sightsOf_append, shownFrom, List.filterMap_append, ih hes,
      sightsOf_childMarkup he]

/-- The markup of every element shows what is shown of its tree, in order. -/
theorem sights_markup (st : Setting) (e : Element) : MarkupShows st e := by
  induction e with
  | mk h es ih =>
    intro b keyed
    rw [shown, markup, List.filterMap_cons, Shown.sight?]
    cases hk : h.kind
    case text => exact sights_textMarkup _ _
    case image | divider => rfl
    case icon =>
      dsimp only [iconMarkup, iconImport?]
      cases st.options.asset? h.sourceId <;> rfl
    case componentInstance =>
      dsimp only [instanceMarkup]
      cases h.instanceOf.filter fun i => st.registry.contains i.componentId <;> rfl
    case container | component =>
      dsimp only [ElementKind.holdsChildren]
      by_cases hl : standsOnOneLine es = true
      · obtain ⟨e,rfl⟩ := exists_eq_singleton_of_standsOnOneLine hl
        simp only [hl, if_true, List.isEmpty_cons, Bool.false_eq_true, if_false, sights_inlined]
        rw [shownFrom, shownFrom, List.append_nil, onlyMarkup,
          ih e (List.mem_singleton_self e)]
        rfl
      · simp only [if_neg hl, if_true]
        have hes := sightsOf_childrenMarkup ih (openElement st b keyed h []).1 (repetition? h) 0
        rw [← hes]
        cases es with
        | nil => rfl
        | cons e es => exact sights_block _ _

end

end DesignCompiler.Markup
