import DesignCompiler.Proofs.Markup.Pieces

/-! Markup without its styles. What is left of it depends on the element alone: no styling decides
what is rendered, what is referred to, or what the texts and the comments say. -/
namespace DesignCompiler.Markup
open Styling

/-- An opening from which the style is taken. -/
def Opening.unstyled (o : Opening) : Opening := { o with style := .plain }

namespace Jsx

mutual

/-- Markup from which the styles are taken. -/
def unstyled : Jsx → Jsx
  | comment remark => .comment remark
  | icon i keyed => .icon i keyed
  | component tag overrides keyed => .component tag overrides keyed
  | void o => .void o.unstyled
  | text o content => .text o.unstyled content
  | inlined o child => .inlined o.unstyled child.unstyled
  | block o children => .block o.unstyled (allUnstyled children)
  | each c template => .each c template.unstyled

def allUnstyled : List Jsx → List Jsx
  | [] => []
  | j :: js => j.unstyled :: allUnstyled js

end

lemma allUnstyled_eq_map (js : List Jsx) : allUnstyled js = js.map unstyled := by
  induction js with
  | nil => rfl
  | cons j js ih => rw [allUnstyled, ih, List.map_cons]

/-! ## Parts -/

/-- A part from which the style is taken. -/
def Part.unstyled : Part → Part
  | .opening o => .opening o.unstyled
  | part => part

/-- Without the styles, markup has the parts that it has otherwise, up to their styles. -/
theorem parts_unstyled (j : Jsx) : j.unstyled.parts = j.parts.map Part.unstyled := by
  induction j with
  | comment | icon | component | void | text => rfl
  | inlined o child ih | each c child ih =>
    rw [unstyled, parts, parts, ih]
    rfl
  | block o children ih =>
    rw [unstyled, parts, parts, allParts_eq_flatMap, allParts_eq_flatMap, allUnstyled_eq_map,
      List.flatMap_map, List.map_cons, List.map_flatMap, List.flatMap_congr ih]
    rfl

/-- What is asked of the parts alike whatever their styles, is asked of unstyled markup. -/
lemma filterMap_parts_unstyled {α : Type} {f : Part → Option α}
    (hf : ∀ part, f part.unstyled = f part) (j : Jsx) :
    j.unstyled.parts.filterMap f = j.parts.filterMap f := by
  rw [parts_unstyled, List.filterMap_map]
  exact List.filterMap_congr fun part _ => hf part

end Jsx

/-! ## Text -/

namespace Piece

/-- A piece from which the style is taken. -/
def unstyled : Piece → Piece
  | verbatim s => .verbatim s
  | part p => .part p.unstyled
  | closing o => .closing o.unstyled

/-- Whether a piece is the content of a text or a comment. -/
def isSpoken : Piece → Bool
  | part (.content _) | part (.comment _) => true
  | _ => false

end Piece

namespace Jsx

/-- Without the styles, the lines of markup have the pieces that they have otherwise, up to their
styles. -/
theorem pieces_unstyled (unit : String) (j : Jsx) (depth : ℕ) :
    j.unstyled.pieces unit depth = (j.pieces unit depth).map (·.map Piece.unstyled) := by
  induction j generalizing depth with
  | comment | icon | component | void | text => rfl
  | inlined o child ih =>
    simp [unstyled, pieces, ih, List.map_flatten, Piece.unstyled, Part.unstyled]
  | block o children ih =>
    have hchildren := List.flatMap_congr fun j hj => ih j hj (depth+1)
    simp [unstyled, pieces, allUnstyled_eq_map, allPieces_eq_flatMap, List.map_flatMap,
      List.flatMap_map, hchildren, Piece.unstyled, Part.unstyled]
  | each c template ih => simp [unstyled, pieces, ih, Piece.unstyled, Part.unstyled]

end Jsx

/-! ## Building in two schemes -/

/-- Two results of building differ at most in styles: the collections are the same, and what is
built is the same without its styles. -/
structure SameButStyles {α : Type} (strip : α → α) (x y : Building × α) : Prop where
  collections : x.1.collections = y.1.collections
  built : strip x.2 = strip y.2

section
variable {s t : Setting} {b c : Building}

/-- Whatever has been styled before, the markup of an element in two settings differs at most in
styles. -/
def MarkupAgrees (s t : Setting) (e : Element) : Prop :=
  ∀ (b c : Building) (keyed : Bool), b.collections = c.collections →
    SameButStyles Jsx.unstyled (markup s b keyed e) (markup t c keyed e)

/-- The markup of a child differs at most in styles. What is read of the state for it are only the
collections. -/
lemma sameButStyles_childMarkup {e : Element} (he : MarkupAgrees s t e)
    (hbc : b.collections = c.collections) (r : Option Repeat) (i : ℕ) :
    SameButStyles (·.map Jsx.unstyled) (childMarkup s b r i e) (childMarkup t c r i e) := by
  rw [childMarkup_eq, childMarkup_eq, ← hbc]
  split_ifs
  · exact ⟨hbc,rfl⟩
  · generalize Naming.fresh b.collections (collectionName e.head) = name
    have htemplate := he ⟨b.progress,b.collections ++ [name]⟩ ⟨c.progress,b.collections ++ [name]⟩
      true rfl
    refine ⟨htemplate.collections,?_⟩
    simp [Jsx.unstyled, htemplate.built]
  · refine ⟨(he b c false hbc).collections,?_⟩
    simp [(he b c false hbc).built]

lemma sameButStyles_childrenMarkup {es : List Element} (hes : ∀ e ∈ es, MarkupAgrees s t e)
    (hbc : b.collections = c.collections) (r : Option Repeat) (i : ℕ) :
    SameButStyles (·.map Jsx.unstyled) (childrenMarkup s b r i es) (childrenMarkup t c r i es) := by
  induction es generalizing b c i with
  | nil =>
    rw [childrenMarkup, childrenMarkup]
    exact ⟨hbc,rfl⟩
  | cons e es ih =>
    obtain ⟨he,hes⟩ := List.forall_mem_cons.mp hes
    have hchild := sameButStyles_childMarkup he hbc r i
    have hrest := ih hes hchild.collections (i+1)
    rw [childrenMarkup_cons, childrenMarkup_cons]
    refine ⟨hrest.collections,?_⟩
    dsimp only
    rw [List.map_append, List.map_append, hchild.built, hrest.built]

/-- The markup of every element differs at most in styles, with one registry and the same
options. -/
theorem sameButStyles_markup (hr : s.registry = t.registry) (ho : s.options = t.options)
    (e : Element) : MarkupAgrees s t e := by
  induction e with
  | mk h es ih =>
    intro b c keyed hbc
    rw [markup, markup]
    cases h.kind
    case text =>
      refine ⟨hbc,?_⟩
      dsimp only [textMarkup]
      split <;> rfl
    case image =>
      refine ⟨hbc,?_⟩
      dsimp only [openElement]
      rw [ho]
      rfl
    case divider => exact ⟨hbc,rfl⟩
    case icon => exact ⟨hbc,by rw [ho]⟩
    case componentInstance => exact ⟨hbc,by rw [hr]⟩
    case container | component =>
      by_cases hl : standsOnOneLine es = true
      · obtain ⟨e,rfl⟩ := exists_eq_singleton_of_standsOnOneLine hl
        have he := ih e (List.mem_singleton_self e) (openElement s b keyed h []).1
          (openElement t c keyed h []).1 false hbc
        simp only [hl, if_true, List.isEmpty_cons, Bool.false_eq_true, if_false]
        exact ⟨he.collections,congrArg (Jsx.inlined _) he.built⟩
      · have hes := sameButStyles_childrenMarkup ih (b := (openElement s b keyed h []).1)
          (c := (openElement t c keyed h []).1) hbc (repetition? h) 0
        simp only [if_neg hl]
        split
        · exact ⟨hbc,rfl⟩
        · refine ⟨hes.collections,?_⟩
          rw [Jsx.unstyled, Jsx.unstyled, Jsx.allUnstyled_eq_map, Jsx.allUnstyled_eq_map, hes.built]
          rfl

end

/-! ## Components -/

/-- The texts and the comments in the text of markup, in their order. -/
def spoken (m : Markup) (unit : String) (depth : ℕ) : List Piece :=
  (m.pieces unit depth).flatten.filter Piece.isSpoken

section
variable {m n : Markup}

/-- What is referred to does not depend on the styles. -/
lemma references_eq (hc : m.component = n.component) (hr : m.root.unstyled = n.root.unstyled) :
    m.components = n.components ∧ m.icons = n.icons ∧ m.collections = n.collections := by
  have hparts {α : Type} (f : Jsx.Part → Option α) (hf : ∀ part, f part.unstyled = f part) :
      m.root.parts.filterMap f = n.root.parts.filterMap f := by
    rw [← Jsx.filterMap_parts_unstyled hf, hr, Jsx.filterMap_parts_unstyled hf]
  refine ⟨?_,?_,?_⟩
  · rw [components, components, hc]
    exact congrArg (firstByKey id []) (hparts _ fun part => by cases part <;> rfl)
  · exact congrArg (firstByKey _ []) (hparts _ fun part => by cases part <;> rfl)
  · exact hparts _ fun part => by cases part <;> rfl

lemma filter_isSpoken_unstyled (ps : List Piece) :
    (ps.map Piece.unstyled).filter Piece.isSpoken = ps.filter Piece.isSpoken := by
  induction ps with
  | nil => rfl
  | cons p ps ih =>
    rw [List.map_cons, List.filter_cons, List.filter_cons, ih]
    cases p with
    | verbatim | closing => rfl
    | part p => cases p <;> rfl

lemma pieces_eq (hr : m.root.unstyled = n.root.unstyled) (unit : String) (depth : ℕ) :
    (m.pieces unit depth).map (·.map Piece.unstyled) =
      (n.pieces unit depth).map (·.map Piece.unstyled) := by
  rw [pieces, pieces, ← Jsx.pieces_unstyled, hr, Jsx.pieces_unstyled]

lemma spoken_eq (hr : m.root.unstyled = n.root.unstyled) (unit : String) (depth : ℕ) :
    m.spoken unit depth = n.spoken unit depth := by
  rw [spoken, ← filter_isSpoken_unstyled, List.map_flatten, pieces_eq hr, ← List.map_flatten,
    filter_isSpoken_unstyled]
  rfl

end

lemma component_build (st : Setting) (p : Progress) (component : String) (root : Element) :
    (build st p component root).2.component = component := rfl

lemma notes_build (st : Setting) (p : Progress) (component : String) (root : Element) :
    (build st p component root).2.notes = root.head.remarks.warnings := rfl

lemma root_build (st : Setting) (p : Progress) (component : String) (root : Element) :
    (build st p component root).2.root = (markup st ⟨p,[]⟩ false root).2 := rfl

/-- Whatever scheme styles a component, and whatever was styled before, its markup refers to the
same components, icons and collections, has the same notes, and says the same in texts and comments.
All of its text, which is written in pieces, is the same except for the styles in its tags. -/
theorem build_agrees_but_styles (s₁ s₂ : Scheme) (p₁ p₂ : Progress) (r : ComponentRegistry)
    (o : Project.ConvertOptions) (component : String) (root : Element) :
    let m₁ := (build ⟨s₁,r,o⟩ p₁ component root).2
    let m₂ := (build ⟨s₂,r,o⟩ p₂ component root).2
    m₁.IsWritten ∧ m₂.IsWritten ∧ m₁.components = m₂.components ∧ m₁.icons = m₂.icons ∧
      m₁.collections = m₂.collections ∧ m₁.notes = m₂.notes ∧
      ∀ unit depth, m₁.spoken unit depth = m₂.spoken unit depth ∧
        (m₁.pieces unit depth).map (·.map Piece.unstyled) =
          (m₂.pieces unit depth).map (·.map Piece.unstyled) := by
  intro m₁ m₂
  have hcomponent : m₁.component = m₂.component := by rw [component_build, component_build]
  have hnotes : m₁.notes = m₂.notes := by rw [notes_build, notes_build]
  have hroot : m₁.root.unstyled = m₂.root.unstyled := by
    have hmarkup := sameButStyles_markup (s := ⟨s₁,r,o⟩) (t := ⟨s₂,r,o⟩) rfl rfl root
    rw [root_build, root_build, (hmarkup ⟨p₁,[]⟩ ⟨p₂,[]⟩ false rfl).built]
  obtain ⟨hcomponents,hicons,hcollections⟩ := references_eq hcomponent hroot
  exact ⟨isWritten m₁,isWritten m₂,hcomponents,hicons,hcollections,hnotes,fun unit depth =>
    ⟨spoken_eq hroot unit depth,pieces_eq hroot unit depth⟩⟩

end DesignCompiler.Markup
