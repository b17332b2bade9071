import DesignCompiler.Element.Basic
import Mathlib.Data.List.Basic

/-! Elements as trees: induction over an element and its children, and the subtrees of an element
beside the walk over their heads. -/
namespace DesignCompiler

/-- Only containers and components hold children. -/
def ElementKind.holdsChildren : ElementKind → Bool
  | .container | .component => true
  | .text | .image | .icon | .componentInstance | .divider => false

namespace Element

/-- A property that passes from the children to an element is one of all elements. -/
@[elab_as_elim, induction_eliminator]
theorem induction {P : Element → Prop}
    (mk : ∀ head children, (∀ e ∈ children, P e) → P (.mk head children)) (e : Element) : P e :=
  @Element.rec P (fun es => ∀ e ∈ es, P e) mk (fun _ he => nomatch he)
    (fun _ _ h hs => List.forall_mem_cons.mpr ⟨h,hs⟩) e

lemma walkAll_eq_flatMap (es : List Element) : walkAll es = es.flatMap walk := by
  induction es with
  | nil => rfl
  | cons e es ih => rw [walkAll, ih, List.flatMap_cons]

@[simp] theorem walk_mk (h : ElementHead) (es : List Element) :
    (mk h es).walk = h :: es.flatMap walk := by
  rw [walk, walkAll_eq_flatMap]

lemma walk_eq (e : Element) : e.walk = e.head :: e.children.flatMap walk := by
  obtain ⟨h,es⟩ := e
  exact walk_mk h es

lemma mapHead_eq (f : ElementHead → ElementHead) (e : Element) :
    e.mapHead f = mk (f e.head) e.children := by
  obtain ⟨h,es⟩ := e
  rfl

@[simp] theorem head_mapHead (f : ElementHead → ElementHead) (e : Element) :
    (e.mapHead f).head = f e.head := by
  rw [mapHead_eq]
  rfl

@[simp] theorem children_mapHead (f : ElementHead → ElementHead) (e : Element) :
    (e.mapHead f).children = e.children := by
  rw [mapHead_eq]
  rfl

/-- What a change of the head leaves alone, the walk shows unchanged. -/
theorem map_walk_mapHead {α : Type} {f : ElementHead → ElementHead} {view : ElementHead → α}
    {e : Element} (h : view (f e.head) = view e.head) :
    (e.mapHead f).walk.map view = e.walk.map view := by
  obtain ⟨hd,es⟩ := e
  rw [mapHead, walk_mk, walk_mk, List.map_cons, List.map_cons]
  exact congrArg (· :: _) h

mutual

/-- The element and all elements inside it, parents before their children. -/
def subtrees : Element → List Element
  | mk head children => mk head children :: subtreesAll children

/-- All elements inside the elements of a list, and these elements. -/
def subtreesAll : List Element → List Element
  | [] => []
  | e :: es => e.subtrees ++ subtreesAll es

end

lemma subtreesAll_eq_flatMap (es : List Element) : subtreesAll es = es.flatMap subtrees := by
  induction es with
  | nil => rfl
  | cons e es ih => rw [subtreesAll, ih, List.flatMap_cons]

@[simp] theorem subtrees_mk (h : ElementHead) (es : List Element) :
    (mk h es).subtrees = mk h es :: es.flatMap subtrees := by
  rw [subtrees, subtreesAll_eq_flatMap]

lemma subtrees_eq (e : Element) : e.subtrees = e :: e.children.flatMap subtrees := by
  obtain ⟨h,es⟩ := e
  exact subtrees_mk h es

lemma mem_subtrees_of_mem_children {e f : Element} (h : f ∈ e.children) : f ∈ e.subtrees := by
  rw [subtrees_eq, List.mem_cons, List.mem_flatMap]
  refine .inr ⟨f,h,?_⟩
  rw [subtrees_eq]
  exact List.mem_cons_self

/-- The walk lists the heads of the subtrees. -/
theorem map_head_subtrees (e : Element) : e.subtrees.map head = e.walk := by
  induction e with
  | mk h es ih =>
    rw [subtrees_mk, walk_mk, List.map_cons, List.map_flatMap, List.flatMap_def, List.flatMap_def,
      List.map_congr_left ih]
    rfl

end Element

end DesignCompiler
