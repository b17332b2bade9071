import DesignCompiler.Proofs.FromDesign.Assembly
import DesignCompiler.Proofs.FromDesign.Repetition

/-! The tree of a component accounts for every node that is shown, once and in order: the sources of
its elements are those of the node and of the slots below it. -/
namespace DesignCompiler.FromDesign
open Document Element

mutual

/-- The sources that a slot stands for: a node with what is below it, as far as its kind holds
children, or an invalid child under its own identity or its parent's and its number. -/
def slotSources (parentId : String) (index : ℕ) : Child → List String
  | .node a cs =>
    a.id :: if (classify ⟨a,cs⟩ none).kind.holdsChildren then sourcesBelow a.id 0 cs else []
  | .invalid bad => [bad.id.getD (parentId ++ "-" ++ toString index)]

/-- The sources below a node whose next shown child has a given number. Hidden nodes have none and
are not counted. -/
def sourcesBelow (parentId : String) (index : ℕ) : List Child → List String
  | [] => []
  | c :: cs =>
    if isShown c then slotSources parentId index c ++ sourcesBelow parentId (index+1) cs
    else sourcesBelow parentId index cs

end

section
variable {s : Surroundings} {parent : Attributes} {tag : String}

lemma sourceIds_place (parent a : Attributes) (e : Element) :
    (place parent a e).walk.map (·.sourceId) = e.walk.map (·.sourceId) := by
  unfold place
  split
  · exact map_walk_mapHead rfl
  · rfl

/-- When each child accounts for its slot, the children together account for all of them. -/
lemma sourceIds_buildChildren {cs : List Child} (h : ∀ c ∈ cs, ∀ i,
      (buildChild s parent tag i c).1.walk.map (·.sourceId) = slotSources parent.id i c) (i : ℕ) :
    ((buildChildren s parent tag i cs).1.flatMap walk).map (·.sourceId) =
      sourcesBelow parent.id i cs := by
  induction cs generalizing i with
  | nil =>
    rw [sourcesBelow, buildChildren]
    rfl
  | cons c cs ih =>
    obtain ⟨hc,hcs⟩ := List.forall_mem_cons.mp h
    rw [buildChildren_cons, sourcesBelow]
    split
    · rw [List.flatMap_cons, List.map_append, hc, ih hcs]
    · exact ih hcs i

/-- An assembled element stands for its node and, if it holds children, for what is below that. -/
lemma sourceIds_assemble (c : Classification) {a : Attributes} {cs : List Child}
    (h : ∀ d ∈ cs, ∀ i,
      (buildChild s a tag i d).1.walk.map (·.sourceId) = slotSources a.id i d) :
    (assemble s c a cs (buildChildren s a tag 0 cs)).1.walk.map (·.sourceId) =
      a.id :: if c.kind.holdsChildren then sourcesBelow a.id 0 cs else [] := by
  have hh := (headOf_assemble s c a cs (buildChildren s a tag 0 cs)).sourceId
  have hc := children_assemble_buildChildren s a tag c cs
  rw [walk_eq, List.map_cons, hh, hc]
  split
  · rw [sourceIds_buildChildren h]
  · rfl

/-- Every slot is accounted for, whatever the tag of its parent. -/
theorem sourceIds_buildChild (s : Surroundings) (parent : Attributes) (tag : String) (i : ℕ)
    (c : Child) :
    (buildChild s parent tag i c).1.walk.map (·.sourceId) = slotSources parent.id i c := by
  induction c generalizing parent tag i with
  | invalid bad =>
    rw [slotSources, buildChild]
    rfl
  | node a cs ih =>
    rw [slotSources, buildChild, ← kind_classify ⟨a,cs⟩ (some tag)]
    exact (sourceIds_place parent a _).trans (sourceIds_assemble _ fun d hd i => ih d hd a _ i)

lemma sourceIds_buildAs (s : Surroundings) (c : Classification) (n : Node) :
    (buildAs s c n).1.walk.map (·.sourceId) =
      n.attrs.id :: if c.kind.holdsChildren then sourcesBelow n.attrs.id 0 n.children else [] :=
  sourceIds_assemble c fun d _ i => sourceIds_buildChild s n.attrs c.tag i d

end

/-- The sources of a component's tree, as they are shown. -/
theorem sourceIds_build (registry : ComponentRegistry)
    (styles : Option (List (String × StyleMeta))) (n : Node) :
    (build registry styles n).1.walk.map (·.sourceId) =
      n.attrs.id ::
        if n.attrs.kind = .componentSet then
          sourcesBelow (defaultVariant n).attrs.id 0 (defaultVariant n).children
        else if (classify n none).kind.holdsChildren then
          sourcesBelow n.attrs.id 0 n.children
        else [] := by
  obtain ⟨h,hr,he⟩ := build_eq registry styles n
  have ha := sourceIds_buildAs (surroundingsOf registry styles n) (rootClass n) (shownNode n)
  rw [walk_eq, List.map_cons, List.cons.injEq] at ha
  rw [he, IgnoresRepetition.map_walk_markRepetitions (fun _ _ _ => rfl), walk_mk, List.map_cons,
    hr.sourceId, ha.2]
  by_cases hk : n.attrs.kind = .componentSet
  · rw [rootClass, shownNode, if_pos hk, if_pos hk, if_pos hk]
    rfl
  · rw [rootClass, shownNode, if_neg hk, if_neg hk, if_neg hk]

end DesignCompiler.FromDesign
