import DesignCompiler.FromDesign.Repetition
import DesignCompiler.Proofs.Element.Tree

/-! Marking the repetitions of a tree keeps its shape, and changes no more of a head than the
remarks about repetition. -/
namespace DesignCompiler.FromDesign
open Element

/-- A view of heads that does not show the remarks about repetition. -/
def IgnoresRepetition {α : Type} (v : ElementHead → α) : Prop :=
  ∀ (h : ElementHead) (repeating : Bool) (repetition : Option Repeat),
    v { h with remarks := { h.remarks with
      isRepeating := repeating
      repetition := repetition } } = v h

lemma IgnoresRepetition.markRepeat {α : Type} {v : ElementHead → α}
    (hv : IgnoresRepetition v) (h : ElementHead) (es : List Element) :
    v (markRepeat h es) = v h := by
  unfold FromDesign.markRepeat
  split
  · exact hv h true _
  · rfl

lemma markAllRepetitions_eq_map (es : List Element) :
    markAllRepetitions es = es.map markRepetitions := by
  induction es with
  | nil => rfl
  | cons e es ih => rw [markAllRepetitions, ih, List.map_cons]

@[simp] theorem markRepetitions_mk (h : ElementHead) (es : List Element) :
    markRepetitions (.mk h es) =
      .mk (markRepeat h (es.map markRepetitions)) (es.map markRepetitions) := by
  rw [markRepetitions, markAllRepetitions_eq_map]

@[simp] theorem children_markRepetitions (e : Element) :
    (markRepetitions e).children = e.children.map markRepetitions := by
  obtain ⟨h,es⟩ := e
  rw [markRepetitions_mk]
  rfl

theorem IgnoresRepetition.markRepetitions {α : Type} {v : ElementHead → α}
    (hv : IgnoresRepetition v) (e : Element) :
    v (markRepetitions e).head = v e.head := by
  obtain ⟨h,es⟩ := e
  rw [markRepetitions_mk]
  exact hv.markRepeat h _

theorem subtrees_markRepetitions (e : Element) :
    (markRepetitions e).subtrees = e.subtrees.map markRepetitions := by
  induction e with
  | mk h es ih =>
    rw [markRepetitions_mk, subtrees_mk, subtrees_mk, List.map_cons, markRepetitions_mk,
      List.flatMap_map, List.map_flatMap, List.flatMap_def, List.flatMap_def,
      List.map_congr_left ih]

theorem IgnoresRepetition.map_walk_markRepetitions {α : Type} {v : ElementHead → α}
    (hv : IgnoresRepetition v) (e : Element) :
    (FromDesign.markRepetitions e).walk.map v = e.walk.map v := by
  rw [← map_head_subtrees, ← map_head_subtrees, subtrees_markRepetitions, List.map_map,
    List.map_map, List.map_map]
  exact List.map_congr_left fun x _ => hv.markRepetitions x

end DesignCompiler.FromDesign
