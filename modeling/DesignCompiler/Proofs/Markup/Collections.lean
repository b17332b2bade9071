import DesignCompiler.FromDesign.Tree
import DesignCompiler.Project.Files
import DesignCompiler.Proofs.Markup.Sights
import DesignCompiler.Proofs.Naming.Numbering

/-! The names of the collections in markup. They are made fresh one after the other, in the order of
the templates, so that none is used twice. Nothing keeps them apart from the names of the props,
with which they share the parameters of the component. -/
namespace DesignCompiler.Markup
open Styling Jsx Naming Document

/-- The names that are wanted for collections, one for each template. -/
def wanted (ss : List Shown) : List String :=
  ss.filterMap fun
    | .template h => some (collectionName h)
    | .element _ => none

lemma wanted_element (h : ElementHead) (ss : List Shown) :
    wanted (.element h :: ss) = wanted ss := rfl

lemma wanted_append (ss ts : List Shown) : wanted (ss ++ ts) = wanted ss ++ wanted ts :=
  List.filterMap_append

/-- The collections among parts of markup. -/
def collectionsOf (parts : List Part) : List Collection :=
  parts.filterMap fun
    | .collection c => some c
    | _ => none

/-- Parts of markup name a collection for every wanted name: each name is fresh among those before
it, and is in use after it. -/
structure Collects (used ws : List String) (parts : List Part) (used' : List String) : Prop where
  names : (collectionsOf parts).map (·.name) = freshNames used ws
  used : used' = used ++ freshNames used ws

namespace Collects
variable {used used₁ used₂ ws vs : List String} {ps qs : List Part}

/-- Parts without collections use no name. -/
lemma none (used : List String) (hp : collectionsOf ps = []) : Collects used [] ps used :=
  ⟨by rw [hp]; rfl,(List.append_nil used).symm⟩

lemma append (hp : Collects used ws ps used₁) (hq : Collects used₁ vs qs used₂) :
    Collects used (ws ++ vs) (ps ++ qs) used₂ := by
  have hparts : collectionsOf (ps ++ qs) = collectionsOf ps ++ collectionsOf qs :=
    List.filterMap_append
  refine ⟨?_,?_⟩
  · rw [hparts, List.map_append, hp.names, hq.names, hp.used, freshNames_append]
  · rw [hq.used, hp.used, freshNames_append, List.append_assoc]

/-- A collection takes the fresh name. -/
lemma collection (used : List String) (w : String) (count : ℕ) :
    Collects used [w] [.collection ⟨fresh used w,count⟩] (used ++ [fresh used w]) := ⟨rfl,rfl⟩

/-- Comments ahead of markup name no collection. -/
lemma ahead (hp : Collects used ws ps used₁) (h : ElementHead) :
    Collects used ws (allParts (comments h) ++ ps) used₁ := by
  have hnone : collectionsOf (allParts (comments h)) = [] := by
    rw [allParts_comments]
    simp [collectionsOf]
  exact (Collects.none used hnone).append hp

/-- Opening an element names no collection. -/
lemma opened (hp : Collects used ws ps used₁) (o : Opening) :
    Collects used ws (.opening o :: ps) used₁ := ⟨hp.names,hp.used⟩

end Collects

section
variable {st : Setting} {e : Element}

/-- Wherever the building stands, the markup of an element names a collection for every template. -/
def MarkupCollects (st : Setting) (e : Element) : Prop :=
  ∀ (b : Building) (keyed : Bool), Collects b.collections (wanted (shown e))
    (markup st b keyed e).2.parts (markup st b keyed e).1.collections

/-- The markup of a child names the collection of the child, if it is a template, and then those
inside it. -/
lemma collects_childMarkup (he : MarkupCollects st e) (b : Building) (r : Option Repeat) (i : ℕ) :
    Collects b.collections
      (wanted (if isRepeated r i then []
        else (if isTemplate r i then [.template e.head] else []) ++ shown e))
      (allParts (childMarkup st b r i e).2) (childMarkup st b r i e).1.collections := by
  rw [childMarkup_eq]
  split_ifs
  · exact .none _ rfl
  · rw [allParts_append, allParts, allParts, List.append_nil, parts, wanted_append]
    have hname := Collects.collection b.collections (collectionName e.head)
      (r.elim 0 (·.members.length))
    exact (hname.append (he ⟨b.progress,_⟩ true)).ahead e.head
  · rw [allParts_append, allParts, allParts, List.append_nil, List.nil_append]
    exact (he b false).ahead e.head

lemma collects_childrenMarkup {es : List Element} (hes : ∀ e ∈ es, MarkupCollects st e)
    (b : Building) (r : Option Repeat) (i : ℕ) :
    Collects b.collections (wanted (shownFrom r i es))
      (allParts (childrenMarkup st b r i es).2) (childrenMarkup st b r i es).1.collections := by
  induction es generalizing b i with
  | nil =>
    rw [shownFrom, childrenMarkup]
    exact .none _ rfl
  | cons e es ih =>
    obtain ⟨he,hes⟩ := List.forall_mem_cons.mp hes
    rw [childrenMarkup_cons, allParts_append, shownFrom, wanted_append]
    exact (collects_childMarkup he b r i).append (ih hes _ (i+1))

/-- The markup of every element names a collection for every template in its tree. -/
theorem collects_markup (st : Setting) (e : Element) : MarkupCollects st e := by
  induction e with
  | mk h es ih =>
    intro b keyed
    rw [shown, wanted_element, markup]
    cases h.kind
    case text =>
      refine .none _ ?_
      dsimp only [textMarkup]
      split <;> rfl
    case image | divider => exact .none _ rfl
    case icon =>
      refine .none _ ?_
      dsimp only [iconMarkup]
      split <;> rfl
    case componentInstance =>
      refine .none _ ?_
      dsimp only [instanceMarkup]
      split <;> rfl
    case container | component =>
      dsimp only [ElementKind.holdsChildren]
      by_cases hl : standsOnOneLine es = true
      · obtain ⟨e,rfl⟩ := exists_eq_singleton_of_standsOnOneLine hl
        simp only [hl, if_true, List.isEmpty_cons, Bool.false_eq_true, if_false]
        rw [shownFrom, shownFrom, List.append_nil, onlyMarkup]
        have he := ih e (List.mem_singleton_self e) (openElement st b keyed h []).1 false
        exact he.opened _
      · simp only [if_neg hl, if_true]
        have hes := collects_childrenMarkup ih (openElement st b keyed h []).1 (repetition? h) 0
        cases es with
        | nil => exact .none _ rfl
        | cons e es => exact hes.opened _

end

/-- What is wanted for a collection ends in a letter. -/
lemma unnumbered_collectionName (h : ElementHead) : Unnumbered (collectionName h) := by
  intro c hc
  rw [collectionName, String.toList_append, List.getLast?_append] at hc
  have hs : c = 's' := by simpa using hc.symm
  rw [hs]
  rfl

lemma exists_of_mem_wanted {ss : List Shown} {w : String} (hw : w ∈ wanted ss) :
    ∃ h, w = collectionName h := by
  obtain ⟨s,-,hs⟩ := List.mem_filterMap.mp hw
  cases s with
  | element h => nomatch hs
  | template h => exact ⟨h,(Option.some.inj hs).symm⟩

lemma unnumbered_of_mem_wanted {ss : List Shown} {w : String} (hw : w ∈ wanted ss) :
    Unnumbered w := by
  obtain ⟨h,rfl⟩ := exists_of_mem_wanted hw
  exact unnumbered_collectionName h

/-- The names of collections are made fresh in the order of the templates. -/
lemma names_collections_build (st : Setting) (p : Progress) (component : String) (root : Element) :
    (build st p component root).2.collections.map (·.name) =
      freshNames [] (wanted (shown root)) :=
  (collects_markup st root ⟨p,[]⟩ false).names

/-- The names of collections are counted, so that they are different from each other. They are also
different from the names of the props exactly if no prop has one of the counted names. -/
theorem collection_names_apart_iff (st : Setting) (p : Progress) (component : String)
    (root : Element) (hprops : (root.head.props.map (·.name)).Nodup) :
    let names := (build st p component root).2.collections.map (·.name)
    names = numberedNames [] (wanted (shown root)) ∧ names.Nodup ∧
      ((root.head.props.map (·.name) ++ names).Nodup ↔ ∀ q ∈ root.head.props, ∀ w k, 1 ≤ k →
        k ≤ (wanted (shown root)).count w → q.name ≠ numbered w k) := by
  intro names
  have hfresh : names = freshNames [] (wanted (shown root)) := names_collections_build ..
  have hnames : names = numberedNames [] (wanted (shown root)) := hfresh.trans
    (freshNames_eq_numberedNames issued_nil fun _ => unnumbered_of_mem_wanted)
  have hnodup : names.Nodup := hfresh ▸ (nodup_freshNames [] _).1
  refine ⟨hnames,hnodup,?_⟩
  rw [List.nodup_append', and_iff_right hprops, and_iff_right hnodup, List.disjoint_left,
    List.forall_mem_map, hnames]
  refine forall₂_congr fun q _ => ?_
  rw [mem_numberedNames]
  simp only [List.count_nil, List.nil_append, not_exists, not_and]
  exact Iff.rfl

/-- A list with a property and three cards, of which the first is the template. -/
def listNode (property : String) : Node :=
  ⟨{ Attributes.bare "0" "List" .component with
      propertyDefinitions := [(property,⟨.text,.string "x",[]⟩)] },
    [.node (.bare "1" "Card 1" .frame) [],.node (.bare "2" "Card 2" .frame) [],
      .node (.bare "3" "Card 3" .frame) []]⟩

/-- The elements of the list. -/
def listRoot (property : String) : Element :=
  (FromDesign.build .empty none (listNode property)).1

/-- The markup of the list. -/
def listMarkup (property : String) : DesignCompiler.Markup :=
  (build ⟨⟨.standard,false,.standard⟩,.empty,.standard⟩ .start "List" (listRoot property)).2

/-- A title is no collection of cards. -/
theorem collection_names_apart_iff_list :
    ((listRoot "Title").head.props.map (·.name)).Nodup ∧
      (listMarkup "Title").collections.map (·.name) = ["cardItems"] ∧
      ∀ q ∈ (listRoot "Title").head.props, ∀ w k, 1 ≤ k →
        k ≤ (wanted (shown (listRoot "Title"))).count w → q.name ≠ numbered w k := by
  have hprops : ((listRoot "Title").head.props.map (·.name)).Nodup := by decide +kernel
  obtain ⟨hnames,-,hiff⟩ := collection_names_apart_iff
    ⟨⟨.standard,false,.standard⟩,.empty,.standard⟩ .start "List" (listRoot "Title") hprops
  refine ⟨hprops,hnames.trans (by decide +kernel),hiff.mp ?_⟩
  decide +kernel

/-- A property that is called `Card Items` has the name of the collection of cards. -/
theorem collection_named_as_prop :
    let props := (listRoot "Card Items").head.props
    let m := listMarkup "Card Items"
    (props.map (·.name)).Nodup ∧ ¬ (props.map (·.name) ++ m.collections.map (·.name)).Nodup ∧
      Project.paramsText .standard "List" props m =
        "\x7b cardItems = 'x', cardItems = Array.from(\x7b length: 3 \x7d) \x7d: ListProps" ∧
      Project.typeFields props m = ["  cardItems?: string;","  cardItems?: unknown[];"] := by
  decide +kernel

end DesignCompiler.Markup
