import DesignCompiler.Proofs.Element.Identity
import DesignCompiler.Proofs.FromDesign.Heads

/-! The identities in the tree of a component. Each follows from that of the node, also for a
placeholder and for the root of a component set, so that nodes with different identities make elements
with different ones. -/
namespace DesignCompiler.FromDesign
open Document Element

/-- An element whose identity follows from that of its node. -/
def DerivesId (h : ElementHead) : Prop := h.id = elementId h.sourceId

lemma ignoresRepetition_derivesId : IgnoresRepetition DerivesId := fun _ _ _ => rfl

lemma ignoresPosition_derivesId : IgnoresPosition DerivesId := fun _ _ => rfl

section
variable {h : ElementHead}

lemma derivesId_startHead (s : Surroundings) (c : Classification) (a : Attributes) :
    DerivesId (startHead s c a).1 := by
  unfold startHead
  cases interactionHint a.name <;> exact rfl

lemma DerivesId.withComponent (hh : DerivesId h) (s : Surroundings) (a : Attributes) :
    DerivesId (withComponent s a h).1 := by
  unfold FromDesign.withComponent
  cases a.componentId with
  | none => exact hh
  | some id =>
    dsimp only
    cases s.registry.get? id <;> exact hh

lemma DerivesId.withShownChildren (hh : DerivesId h) (a : Attributes) (shown : List Child) :
    DerivesId (withShownChildren a shown h).1 := by
  unfold FromDesign.withShownChildren
  dsimp only
  split_ifs <;> exact hh

end

lemma derivesId_assemble (s : Surroundings) (c : Classification) (a : Attributes)
    (children : List Child) (built : Reported (List Element)) :
    DerivesId (assemble s c a children built).1.head := by
  have hs := derivesId_startHead s c a
  unfold assemble
  cases c.kind
  case text => exact hs
  case componentInstance => exact hs.withComponent s a
  case image | icon | divider => exact hs
  case container | component =>
    cases children.filter isShown with
    | nil => exact hs
    | cons d ds => exact hs.withShownChildren a (d :: ds)

lemma derivesId_buildChild (s : Surroundings) (parent : Attributes) (tag : String) (i : ℕ)
    (c : Child) : DerivesId (buildChild s parent tag i c).1.head := by
  cases c with
  | invalid bad =>
    rw [buildChild]
    rfl
  | node a cs =>
    rw [buildChild_node, ignoresPosition_derivesId.place]
    exact derivesId_assemble _ _ _ _ _

section
variable (registry : ComponentRegistry) (styles : Option (List (String × StyleMeta))) (n : Node)

lemma derivesId_build : DerivesId (build registry styles n).1.head := by
  unfold build
  dsimp only
  rw [ignoresRepetition_derivesId.markRepetitions, head_mapHead]
  split
  · unfold buildSet addHint
    dsimp only
    split <;> exact rfl
  · rw [head_mapHead]
    exact derivesId_assemble _ _ _ _ _

/-- The identities in a tree are made from those of its nodes. -/
theorem ids_build : (build registry styles n).1.walk.map (·.id) =
    ((build registry styles n).1.walk.map (·.sourceId)).map elementId := by
  rw [List.map_map]
  exact List.map_congr_left (forall_mem_walk_build registry styles n ignoresRepetition_derivesId
    (derivesId_build registry styles n) fun parent tag i c _ =>
      derivesId_buildChild _ parent tag i c)

/-- Nodes that the source tells apart make elements with different identities. -/
theorem nodup_ids_build
    (hshape : ∀ s ∈ (build registry styles n).1.walk.map (·.sourceId), IsSourceId s)
    (hnodup : ((build registry styles n).1.walk.map (·.sourceId)).Nodup) :
    ((build registry styles n).1.walk.map (·.id)).Nodup := by
  rw [ids_build]
  refine hnodup.map_on fun s hs t ht h => ?_
  rw [← sourceIdOf_elementId (hshape s hs), h, sourceIdOf_elementId (hshape t ht)]

end

end DesignCompiler.FromDesign
