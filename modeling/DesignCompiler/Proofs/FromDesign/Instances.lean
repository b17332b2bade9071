import DesignCompiler.Proofs.FromDesign.Heads

/-! The names of instances. An instance whose component is known has the identifier of the name
under which the component is shown, wherever it stands in a tree. -/
namespace DesignCompiler.FromDesign
open Document Element

/-- An instance is named after its component, if that is known. -/
def NamedByComponent (r : ComponentRegistry) (h : ElementHead) : Prop :=
  h.kind = .componentInstance → ∀ i ∈ h.instanceOf, ∀ entry ∈ r.get? i.componentId,
    h.tag = Naming.componentIdentifier entry.displayName

section
variable {s : Surroundings}

lemma instanceOf_startHead (c : Classification) (a : Attributes) :
    (startHead s c a).1.instanceOf = none := by
  unfold startHead
  cases interactionHint a.name <;> rfl

lemma namedByComponent_withComponent (a : Attributes) {h : ElementHead}
    (hn : h.instanceOf = none) : NamedByComponent s.registry (withComponent s a h).1 := by
  unfold withComponent
  cases a.componentId with
  | none =>
    intro _ i hi
    change i ∈ h.instanceOf at hi
    rw [hn] at hi
    contradiction
  | some id =>
    intro _ i hi entry he
    cases hr : s.registry.get? id with
    | none =>
      simp only [hr, addWarning, Option.mem_some_iff] at hi
      rw [← hi, hr] at he
      contradiction
    | some known =>
      simp only [hr, Option.mem_some_iff] at hi ⊢
      rw [← hi, hr] at he
      rw [Option.some.inj he]

theorem namedByComponent_assemble (c : Classification) (a : Attributes) (children : List Child)
    (built : Reported (List Element)) :
    NamedByComponent s.registry (assemble s c a children built).1.head := by
  by_cases hk : c.kind = .componentInstance
  · unfold assemble
    rw [hk]
    exact namedByComponent_withComponent a (instanceOf_startHead c a)
  · intro hi
    exact absurd ((headOf_assemble s c a children built).kind ▸ hi) hk

lemma namedByComponent_buildChild (parent : Attributes) (tag : String) (i : ℕ) (c : Child) :
    NamedByComponent s.registry (buildChild s parent tag i c).1.head := by
  cases c with
  | invalid bad =>
    rw [buildChild_invalid]
    intro hk
    contradiction
  | node a cs =>
    rw [buildChild_node,
      IgnoresPosition.place (v := NamedByComponent s.registry) (fun _ _ => rfl)]
    exact namedByComponent_assemble _ a cs _

end

/-- What an element shows of its component. -/
def instanceView (h : ElementHead) : ElementKind × String × Option InstanceRef :=
  (h.kind,h.tag,h.instanceOf)

/-- The root of a component is what it is by the node that is shown. -/
lemma instanceView_build (registry : ComponentRegistry)
    (styles : Option (List (String × StyleMeta))) (n : Node) :
    instanceView (build registry styles n).1.head = instanceView
      (buildAs (surroundingsOf registry styles n) (rootClass n) (shownNode n)).1.head :=
  IgnoresRoot.build (fun _ _ _ _ _ _ => rfl) registry styles n

/-- Every instance in the tree of a component is named after its component, if that is known. -/
theorem namedByComponent_of_mem_walk (registry : ComponentRegistry)
    (styles : Option (List (String × StyleMeta))) (n : Node) {h : ElementHead}
    (hh : h ∈ (build registry styles n).1.walk) : NamedByComponent registry h := by
  refine forall_mem_walk_build registry styles n (fun _ _ _ => rfl) ?_ ?_ h hh
  · have hview := instanceView_build registry styles n
    simp only [instanceView, Prod.mk.injEq] at hview
    rw [NamedByComponent, hview.1, hview.2.1, hview.2.2]
    exact namedByComponent_assemble (s := surroundingsOf registry styles n) _ _ _ _
  · exact fun parent tag i c _ => namedByComponent_buildChild parent tag i c

end DesignCompiler.FromDesign
