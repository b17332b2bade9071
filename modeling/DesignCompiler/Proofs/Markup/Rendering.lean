import DesignCompiler.Markup.Build
import DesignCompiler.Proofs.Element.Tree
import DesignCompiler.Proofs.Markup.FirstByKey
import DesignCompiler.Proofs.Styling.Styler

/-! Which elements of a tree the markup opens. It styles them in the order in which it opens them,
and its texts have their contents. -/
namespace DesignCompiler.Markup
open Styling Jsx

/-- Whether the child with a number is one that a template stands for. -/
def isRepeated (r : Option Repeat) (i : ℕ) : Bool :=
  r.any fun r => i != r.template && r.members.contains i

/-- Whether the child with a number is the template of a repetition. -/
def isTemplate (r : Option Repeat) (i : ℕ) : Bool := r.any fun r => i == r.template

mutual

/-- The elements that are rendered as elements of the markup, parents before their children. An icon
and an instance are rendered as something else. -/
def rendered : Element → List ElementHead
  | .mk h es =>
    match h.kind with
    | .text | .image | .divider => [h]
    | .icon | .componentInstance => []
    | .container | .component =>
      h :: renderedFrom (if standsOnOneLine es then none else repetition? h) 0 es

/-- The elements that are rendered below a container, whose children are numbered from `i` on. -/
def renderedFrom (r : Option Repeat) (i : ℕ) : List Element → List ElementHead
  | [] => []
  | e :: es => (if isRepeated r i then [] else rendered e) ++ renderedFrom r (i+1) es

end

lemma renderedFrom_sublist {es : List Element} (hes : ∀ e ∈ es, (rendered e).Sublist e.walk)
    (r : Option Repeat) (i : ℕ) : (renderedFrom r i es).Sublist (es.flatMap Element.walk) := by
  induction es generalizing i with
  | nil =>
    rw [renderedFrom]
    exact List.nil_sublist _
  | cons e es ih =>
    obtain ⟨he,hes⟩ := List.forall_mem_cons.mp hes
    rw [renderedFrom, List.flatMap_cons]
    refine List.Sublist.append ?_ (ih hes (i+1))
    split
    · exact List.nil_sublist _
    · exact he

/-- Only what stands in the tree is rendered, each element at most once and in order. -/
theorem rendered_sublist_walk (e : Element) : (rendered e).Sublist e.walk := by
  induction e with
  | mk h es ih =>
    rw [Element.walk_mk, rendered]
    cases h.kind
    case text | image | divider => exact List.singleton_sublist.mpr List.mem_cons_self
    case icon | componentInstance => exact List.nil_sublist _
    case container | component => exact (renderedFrom_sublist ih _ 0).cons_cons h

/-- The openings among parts of markup. -/
def openings (parts : List Part) : List Opening :=
  parts.filterMap fun
    | .opening o => some o
    | _ => none

/-- Parts of markup render some elements: there is an opening for each, which takes its style in
turn, and what stands in a text is the content of one of them. -/
structure Renders (s : Scheme) (p : Progress) (hs : List ElementHead) (parts : List Part)
    (p' : Progress) : Prop where
  progress : (styleAll s p hs).1 = p'
  styles : (openings parts).map (·.style) = (styleAll s p hs).2
  tags : (openings parts).map (·.tag) = hs.map (·.tag)
  contents : ∀ c, .content c ∈ parts → ∃ h ∈ hs, c = contentOf h

namespace Renders
variable {s : Scheme} {p p₁ p₂ : Progress} {hs hs' : List ElementHead} {ps qs : List Part}

/-- Parts that are no openings and no contents render nothing. -/
lemma none (p : Progress) (ho : openings ps = []) (hc : ∀ c, .content c ∉ ps) :
    Renders s p [] ps p :=
  ⟨rfl,by rw [ho]; rfl,by rw [ho]; rfl,fun c h => absurd h (hc c)⟩

lemma append (hp : Renders s p hs ps p₁) (hq : Renders s p₁ hs' qs p₂) :
    Renders s p (hs ++ hs') (ps ++ qs) p₂ := by
  have ho : openings (ps ++ qs) = openings ps ++ openings qs := List.filterMap_append
  refine ⟨?_,?_,?_,?_⟩
  · rw [styleAll_append, hp.progress, hq.progress]
  · rw [ho, List.map_append, hp.styles, hq.styles, styleAll_append, hp.progress]
  · rw [ho, List.map_append, hp.tags, hq.tags, List.map_append]
  · intro c h
    obtain h | h := List.mem_append.mp h
    · obtain ⟨g,hg,rfl⟩ := hp.contents c h
      exact ⟨g,List.mem_append_left _ hg,rfl⟩
    · obtain ⟨g,hg,rfl⟩ := hq.contents c h
      exact ⟨g,List.mem_append_right _ hg,rfl⟩

/-- Opening an element renders it. -/
lemma opening (st : Setting) (b : Building) (keyed : Bool) (h : ElementHead)
    (texts : List (String × String)) :
    Renders st.scheme b.progress [h] [.opening (openElement st b keyed h texts).2]
      (openElement st b keyed h texts).1.progress := by
  refine ⟨rfl,rfl,rfl,?_⟩
  intro c h
  simp at h

/-- A text renders its element, whether it has content or not. -/
lemma text (st : Setting) (b : Building) (keyed : Bool) (h : ElementHead) :
    Renders st.scheme b.progress [h]
      (textMarkup (openElement st b keyed h []).2 (contentOf h)).parts
      (openElement st b keyed h []).1.progress := by
  unfold textMarkup
  split
  · exact opening st b keyed h []
  · refine ⟨rfl,rfl,rfl,?_⟩
    intro c hc
    refine ⟨h,List.mem_singleton_self h,?_⟩
    simpa [parts] using hc

end Renders

lemma allParts_eq_flatMap (js : List Jsx) : allParts js = js.flatMap parts := by
  induction js with
  | nil => rfl
  | cons j js ih => rw [allParts, ih, List.flatMap_cons]

lemma allParts_append (js ks : List Jsx) : allParts (js ++ ks) = allParts js ++ allParts ks := by
  rw [allParts_eq_flatMap, List.flatMap_append, ← allParts_eq_flatMap, ← allParts_eq_flatMap]

lemma allParts_comments (h : ElementHead) :
    allParts (comments h) = h.remarks.warnings.map .comment := by
  rw [allParts_eq_flatMap, comments, List.flatMap_map, List.map_eq_flatMap]
  rfl

lemma exists_eq_singleton_of_standsOnOneLine {es : List Element}
    (h : standsOnOneLine es = true) : ∃ e, es = [e] := by
  unfold standsOnOneLine at h
  split at h
  · exact ⟨_,rfl⟩
  · contradiction

/-- The markup of a child with the comments about it, if no template stands for it. -/
def childMarkup (st : Setting) (b : Building) (r : Option Repeat) (i : ℕ) (e : Element) :
    Building × List Jsx :=
  match r with
  | some r =>
    if i == r.template then
      let name := Naming.fresh b.collections (collectionName e.head)
      let (b,j) := markup st { b with collections := b.collections ++ [name] } true e
      (b,comments e.head ++ [.each ⟨name,r.members.length⟩ j])
    else if r.members.contains i then (b,[])
    else
      let (b,j) := markup st b false e
      (b,comments e.head ++ [j])
  | none =>
    let (b,j) := markup st b false e
    (b,comments e.head ++ [j])

/-- Nothing is there for a child that a template stands for. The template has a collection around
it, under a fresh name, and every other child has its own markup. -/
lemma childMarkup_eq (st : Setting) (b : Building) (r : Option Repeat) (i : ℕ) (e : Element) :
    childMarkup st b r i e =
      if isRepeated r i then (b,[])
      else if isTemplate r i then
        let name := Naming.fresh b.collections (collectionName e.head)
        let built := markup st ⟨b.progress,b.collections ++ [name]⟩ true e
        (built.1,comments e.head ++ [.each ⟨name,r.elim 0 (·.members.length)⟩ built.2])
      else ((markup st b false e).1,comments e.head ++ [(markup st b false e).2]) := by
  cases r with
  | none => rfl
  | some r =>
    unfold childMarkup isRepeated isTemplate
    by_cases ht : i = r.template
    · simp [ht]
    · have hbeq : (i == r.template) = false := beq_eq_false_iff_ne.mpr ht
      simp only [Option.any_some, bne, hbeq, Bool.not_false, Bool.true_and, Bool.false_eq_true,
        if_false]

lemma childrenMarkup_cons (st : Setting) (b : Building) (r : Option Repeat) (i : ℕ) (e : Element)
    (es : List Element) :
    childrenMarkup st b r i (e :: es) =
      ((childrenMarkup st (childMarkup st b r i e).1 r (i+1) es).1,
        (childMarkup st b r i e).2 ++
          (childrenMarkup st (childMarkup st b r i e).1 r (i+1) es).2) := by
  obtain ⟨h,cs⟩ := e
  rw [childrenMarkup.eq_def]
  cases r <;> rfl

section
variable {st : Setting} {e : Element}

/-- Comments and a collection ahead of the markup of an element render nothing more. -/
lemma Renders.ahead {s : Scheme} {p p' : Progress} {hs : List ElementHead} {ps : List Part}
    (hr : Renders s p hs ps p') (h : ElementHead) (cs : List Collection) :
    Renders s p hs (h.remarks.warnings.map .comment ++ cs.map .collection ++ ps) p' := by
  have ho : openings (h.remarks.warnings.map Part.comment ++ cs.map .collection) = [] := by
    simp [openings]
  have hc : ∀ c, Part.content c ∉ h.remarks.warnings.map .comment ++ cs.map .collection := by
    simp
  exact (Renders.none p ho hc).append hr

/-- Wherever the building stands, the markup of an element renders what there is to render. -/
def MarkupRenders (st : Setting) (e : Element) : Prop :=
  ∀ (b : Building) (keyed : Bool), Renders st.scheme b.progress (rendered e)
    (markup st b keyed e).2.parts (markup st b keyed e).1.progress

/-- The markup of a child renders the child, unless a template stands for it. -/
lemma renders_childMarkup (he : MarkupRenders st e) (b : Building) (r : Option Repeat) (i : ℕ) :
    Renders st.scheme b.progress (if isRepeated r i then [] else rendered e)
      (allParts (childMarkup st b r i e).2) (childMarkup st b r i e).1.progress := by
  rw [childMarkup_eq]
  split_ifs
  · exact .none _ rfl (by simp [allParts])
  · generalize Naming.fresh b.collections (collectionName e.head) = name
    rw [allParts_append, allParts_comments]
    have htemplate := (he ⟨b.progress,b.collections ++ [name]⟩ true).ahead e.head
      [⟨name,r.elim 0 (·.members.length)⟩]
    simpa [allParts, parts] using htemplate
  · rw [allParts_append, allParts_comments]
    simpa [allParts] using (he b false).ahead e.head []

/-- The markup of children renders those for which no template stands. -/
lemma renders_childrenMarkup {es : List Element} (hes : ∀ e ∈ es, MarkupRenders st e)
    (b : Building) (r : Option Repeat) (i : ℕ) :
    Renders st.scheme b.progress (renderedFrom r i es)
      (allParts (childrenMarkup st b r i es).2) (childrenMarkup st b r i es).1.progress := by
  induction es generalizing b i with
  | nil =>
    rw [renderedFrom, childrenMarkup]
    exact .none _ rfl (by simp [allParts])
  | cons e es ih =>
    obtain ⟨he,hes⟩ := List.forall_mem_cons.mp hes
    rw [childrenMarkup_cons, allParts_append, renderedFrom]
    exact (renders_childMarkup he b r i).append (ih hes _ (i+1))

/-- The markup of every element renders what there is to render in its tree. -/
theorem renders_markup (st : Setting) (e : Element) : MarkupRenders st e := by
  induction e with
  | mk h es ih =>
    intro b keyed
    rw [rendered, markup]
    cases h.kind
    case text => exact .text st b keyed h
    case image | divider => exact .opening st b keyed h _
    case icon =>
      dsimp only [iconMarkup]
      split <;> exact .none _ rfl (by simp [parts])
    case componentInstance =>
      dsimp only [instanceMarkup]
      split <;> exact .none _ rfl (by simp [parts])
    case container | component =>
      have ho := Renders.opening st b keyed h []
      by_cases hl : standsOnOneLine es = true
      · obtain ⟨e,rfl⟩ := exists_eq_singleton_of_standsOnOneLine hl
        have he := ih e (List.mem_singleton_self e)
        simp only [hl, if_true, List.isEmpty_cons, Bool.false_eq_true, if_false]
        rw [renderedFrom, renderedFrom, List.append_nil, onlyMarkup]
        exact ho.append (he _ false)
      · simp only [if_neg hl]
        have hes := ho.append (renders_childrenMarkup ih (openElement st b keyed h []).1
          (repetition? h) 0)
        cases es with
        | nil =>
          rw [renderedFrom]
          exact ho
        | cons e es => exact hes

end

/-! ## Definitions -/

/-- The definitions are those of the styles, each name once. -/
lemma definitions_eq_firstByKey (m : DesignCompiler.Markup) :
    m.definitions = firstByKey (·.name) []
      (((openings m.root.parts).map (·.style)).filterMap StyleUse.definition?) := by
  rw [Markup.definitions, openings, List.filterMap_map, List.filterMap_filterMap]
  congr 2
  funext part
  cases part <;> rfl

lemma renders_build (st : Setting) (p : Progress) (component : String) (root : Element) :
    Renders st.scheme p (rendered root) (build st p component root).2.root.parts
      (build st p component root).1 :=
  renders_markup st root ⟨p,[]⟩ false

end DesignCompiler.Markup
