import DesignCompiler.Proofs.Element.RawTexts
import DesignCompiler.Proofs.FromDesign.Overrides
import DesignCompiler.Proofs.Naming.Identifier

/-! The texts of a design that reach the file of a component as they stand, and that no others do:
the elements of a design in which these are on one line are proper. -/
namespace DesignCompiler
open Text

namespace Document
open FromDesign

/-- The texts of a node's look that are written as they stand. -/
def Attributes.styleTexts (a : Attributes) : List String :=
  if a.kind == .text then (a.typeStyle.bind (·.fontFamily)).toList
  else ((topFill a.fills).bind (·.imageRef)).toList

/-- The texts of a node that are written as they stand, when it becomes an element of a kind: an
icon or an instance may be written as a comment that names it. -/
def Attributes.rawTexts (a : Attributes) (kind : ElementKind) : List String :=
  a.styleTexts ++
    match kind with
    | .icon => [a.name]
    | .componentInstance => a.name :: a.componentId.toList
    | _ => []

namespace Child

mutual

/-- The texts of a slot that are written as they stand. -/
def rawTexts : Child → List String
  | node a cs => a.rawTexts (classify ⟨a,cs⟩ none).kind ++ allRawTexts cs
  | invalid bad => [bad.reason]

def allRawTexts : List Child → List String
  | [] => []
  | c :: cs => c.rawTexts ++ allRawTexts cs

end

lemma allRawTexts_eq_flatMap (cs : List Child) : allRawTexts cs = cs.flatMap rawTexts := by
  induction cs with
  | nil => rfl
  | cons c cs ih => rw [allRawTexts, ih, List.flatMap_cons]

lemma allOneLine_rawTexts_node {a : Attributes} {cs : List Child} :
    AllOneLine (Child.node a cs).rawTexts ↔
      AllOneLine (a.rawTexts (classify ⟨a,cs⟩ none).kind) ∧ ∀ c ∈ cs, AllOneLine c.rawTexts := by
  rw [rawTexts, allOneLine_append, allRawTexts_eq_flatMap]
  exact and_congr_right fun _ => List.forall_mem_flatMap

/-- The texts of a slot are among those of the tree in which it stands. -/
lemma allOneLine_rawTexts_of_mem_subtrees {c d : Child} (hc : AllOneLine c.rawTexts)
    (hd : d ∈ c.subtrees) : AllOneLine d.rawTexts := by
  induction c with
  | invalid bad => rwa [List.mem_singleton.mp hd]
  | node a cs ih =>
    rw [subtrees_node, List.mem_cons, List.mem_flatMap] at hd
    obtain rfl | ⟨c,hmem,hd⟩ := hd
    · exact hc
    · exact ih c hmem ((allOneLine_rawTexts_node.mp hc).2 c hmem) hd

end Child

end Document

namespace FromDesign
open Document Element

/-! ## Tags, remarks and names -/

/-- The tags that a node can have by itself. -/
def elementTags : List String :=
  ["div","img","hr","svg","span","p"] ++ (semanticTags ++ headingTags).map (·.1)

lemma mem_of_firstWithWord? {table : List (String × List String)} {name tag : String}
    (h : Naming.firstWithWord? table name = some tag) : tag ∈ table.map (·.1) := by
  obtain ⟨e,he,rfl⟩ := Option.map_eq_some_iff.mp h
  exact List.mem_map_of_mem (List.mem_of_find?_eq_some he)

lemma tag_named_mem (kind : ElementKind) (name : String) : (named kind name).tag ∈ elementTags := by
  have hwords : semanticTags.map (·.1) ⊆ elementTags := by decide
  unfold named
  dsimp only
  cases ht : semanticTag name with
  | none => decide
  | some tag => exact hwords (mem_of_firstWithWord? ht)

lemma textTag_mem (a : Attributes) (parentTag : Option String) :
    textTag a parentTag ∈ elementTags := by
  have hwords : headingTags.map (·.1) ⊆ elementTags := by decide
  have hsizes : ∀ e ∈ headingSizes, e.2 ∈ elementTags := by simp +decide
  unfold textTag
  split
  · next tag ht => exact hwords (mem_of_firstWithWord? ht)
  · split
    · decide
    · dsimp only
      cases ht : headingSizes.find? fun e => e.1 ≤ (a.typeStyle.bind (·.fontSize)).getD 0.0 with
      | none => decide
      | some e => exact hsizes e (List.mem_of_find?_eq_some ht)

theorem tag_classify_mem (n : Node) (parentTag : Option String) :
    (classify n parentTag).tag ∈ elementTags := by
  unfold classify
  dsimp only
  cases n.attrs.kind
  case text => exact textTag_mem _ _
  case component | componentSet | pageSection => exact tag_named_mem _ _
  case frame | group =>
    dsimp only
    split
    · decide
    · exact tag_named_mem _ _
  case rectangle | ellipse =>
    dsimp only
    split_ifs <;> decide
  case line => exact (by decide : "hr" ∈ elementTags)
  case componentInstance | document | canvas | other => exact (by decide : "div" ∈ elementTags)
  case vector | booleanOperation | star | polygon => exact (by decide : "svg" ∈ elementTags)

lemma oneLine_of_mem_elementTags {tag : String} (h : tag ∈ elementTags) : OneLine tag :=
  (by decide : AllOneLine elementTags) tag h

lemma isRemark_hintWarning {name hint : String} (h : interactionHint name = some hint) :
    IsRemark (hintWarning hint) := by
  have hwords : AllOneLine interactionWords := by decide
  have hhint := hwords hint (List.mem_of_find?_eq_some h)
  exact ((by decide : IsRemark "interactive behavior likely needed (").append hhint).append
    (by decide)

lemma allOneLine_overridesOf (a : Attributes) : AllOneLine ((overridesOf a).map (·.1)) := by
  intro name hname
  obtain ⟨⟨name,v⟩,he,rfl⟩ := List.mem_map.mp hname
  obtain ⟨key,p,-,rfl,-⟩ := exists_of_mem_overridesOf he
  exact Naming.oneLine_propIdentifier key

/-! ## Styles -/

lemma rawTexts_mapStyleColors (fill stroke : Color → Color) (s : Style) :
    (mapStyleColors fill stroke s).rawTexts = s.rawTexts := by
  obtain ⟨background,border,radius,shadows,opacity,overflow,font⟩ := s
  obtain _ | (c | g | i) := background <;> obtain _ | f := font <;> rfl

lemma rawTexts_backgroundOf (a : Attributes) (p : Paint) :
    (backgroundOf a p).1.toList.flatMap Background.rawTexts ⊆ p.imageRef.toList := by
  unfold backgroundOf
  cases p.kind
  case solid => cases p.color <;> exact List.nil_subset _
  case image => simp [Background.rawTexts]
  all_goals exact List.nil_subset _

theorem rawTexts_styleOf (a : Attributes) : (styleOf a).1.rawTexts ⊆ a.styleTexts := by
  unfold styleOf
  dsimp only
  rw [rawTexts_mapStyleColors]
  unfold Attributes.styleTexts Style.rawTexts
  dsimp only
  by_cases hk : a.kind = .text
  · simp only [hk, BEq.rfl, if_true]
    unfold fontOf
    cases a.typeStyle <;> simp [Font.plain]
  · have hbeq : (a.kind == .text) = false := beq_eq_false_iff_ne.mpr hk
    simp only [hbeq]
    cases topFill a.fills with
    | none => simp
    | some p => simpa using rawTexts_backgroundOf a p

end FromDesign

end DesignCompiler
