import DesignCompiler.Proofs.FromDesign.Instances
import DesignCompiler.Proofs.FromDesign.ProperTree

/-! What of the look of an element stands in a script: its tag, which is a word, and the texts of
its style, which are those of its node. -/
namespace DesignCompiler

namespace Document
open FromDesign

/-- The texts of the look of a slot that are written as they stand. -/
def Child.styleTexts : Child → List String
  | node a _ => a.styleTexts
  | invalid _ => []

/-- The texts of the looks in a document that are written as they stand. -/
def styleTexts (d : DesignCompiler.Document) : List String :=
  d.root.toChild.subtrees.flatMap Child.styleTexts

end Document

namespace FromDesign
open Document Element Naming

/-- An element whose tag is a word, and whose style has no texts but some that are given. -/
structure LooksFrom (texts : List String) (h : ElementHead) : Prop where
  tag : ∀ c ∈ h.tag.toList, IsNameChar c
  style : h.style.rawTexts ⊆ texts

section
variable {s : Surroundings} {a : Attributes} {c : Classification} {h : ElementHead}
  {texts : List String}

lemma LooksFrom.mono {more : List String} (hh : LooksFrom texts h) (hm : texts ⊆ more) :
    LooksFrom more h := ⟨hh.tag,List.Subset.trans hh.style hm⟩

lemma looksFrom_startHead (ht : c.tag ∈ elementTags) :
    LooksFrom a.styleTexts (startHead s c a).1 := by
  have hwords : ∀ tag ∈ elementTags, ∀ c ∈ tag.toList, IsNameChar c := by decide
  have htag : (startHead s c a).1.tag = c.tag := by
    unfold startHead
    cases interactionHint a.name <;> rfl
  refine ⟨?_,?_⟩
  · rw [htag]
    exact hwords c.tag ht
  · rw [rawTexts_startHead]
    exact rawTexts_styleOf a

lemma LooksFrom.withComponent (hh : LooksFrom texts h) :
    LooksFrom texts (withComponent s a h).1 := by
  unfold FromDesign.withComponent
  cases a.componentId with
  | none => exact ⟨hh.tag,hh.style⟩
  | some id =>
    cases hr : s.registry.get? id with
    | none =>
      simp only [hr]
      exact ⟨hh.tag,hh.style⟩
    | some entry =>
      simp only [hr]
      exact ⟨(isComponentName_componentIdentifier _).isNameChar,hh.style⟩

lemma LooksFrom.withShownChildren (hh : LooksFrom texts h) (shown : List Child) :
    LooksFrom texts (withShownChildren a shown h).1 := by
  unfold FromDesign.withShownChildren
  dsimp only
  split_ifs <;> exact ⟨hh.tag,hh.style⟩

theorem looksFrom_assemble (ht : c.tag ∈ elementTags) (a : Attributes) (children : List Child)
    (built : Reported (List Element)) :
    LooksFrom a.styleTexts (assemble s c a children built).1.head := by
  have hstart := looksFrom_startHead (s := s) (a := a) ht
  unfold assemble
  cases c.kind
  case text => exact ⟨hstart.tag,hstart.style⟩
  case componentInstance => exact hstart.withComponent
  case image | icon | divider => exact hstart
  case container | component =>
    cases children.filter isShown with
    | nil => exact hstart
    | cons d ds => exact hstart.withShownChildren _

lemma looksFrom_buildAs (ht : c.tag ∈ elementTags) (n : Node) :
    LooksFrom n.toChild.styleTexts (buildAs s c n).1.head :=
  looksFrom_assemble ht n.attrs n.children _

lemma looksFrom_buildChild (parent : Attributes) (tag : String) (i : ℕ) (d : Child) :
    LooksFrom d.styleTexts (buildChild s parent tag i d).1.head := by
  cases d with
  | invalid bad =>
    rw [buildChild_invalid]
    exact ⟨(by decide : ∀ c ∈ "div".toList, IsNameChar c),List.nil_subset _⟩
  | node a cs =>
    have hignores : IgnoresPosition (LooksFrom a.styleTexts) := fun h p =>
      propext ⟨fun hh => ⟨hh.tag,hh.style⟩,fun hh => ⟨hh.tag,hh.style⟩⟩
    rw [buildChild_node]
    change LooksFrom a.styleTexts _
    rw [hignores.place]
    exact looksFrom_assemble (tag_classify_mem _ _) a cs _

end

/-- The elements in the tree of a component look as the slots of its node say. -/
theorem looksFrom_of_mem_walk (registry : ComponentRegistry)
    (styles : Option (List (String × StyleMeta))) (n : Node) {h : ElementHead}
    (hh : h ∈ (build registry styles n).1.walk) :
    LooksFrom (n.toChild.subtrees.flatMap Child.styleTexts) h := by
  have hslot : ∀ c ∈ n.toChild.subtrees,
      c.styleTexts ⊆ n.toChild.subtrees.flatMap Child.styleTexts :=
    fun c hc _ hx => List.mem_flatMap.mpr ⟨c,hc,hx⟩
  have hignores : IgnoresRoot (LooksFrom (n.toChild.subtrees.flatMap Child.styleTexts)) :=
    fun h _ _ _ _ _ => propext ⟨fun hh => ⟨hh.tag,hh.style⟩,fun hh => ⟨hh.tag,hh.style⟩⟩
  refine forall_mem_walk_build registry styles n hignores.ignoresRepetition ?_ ?_ h hh
  · have hclass : (rootClass n).tag ∈ elementTags := by
      unfold rootClass
      split
      · exact tag_named_mem _ _
      · exact tag_classify_mem _ _
    rw [hignores.build]
    exact (looksFrom_buildAs hclass (shownNode n)).mono (hslot _ (toChild_shownNode_mem n))
  · exact fun parent tag i c hc => (looksFrom_buildChild parent tag i c).mono (hslot c hc)

end FromDesign

end DesignCompiler
