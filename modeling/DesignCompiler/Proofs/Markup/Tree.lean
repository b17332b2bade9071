import DesignCompiler.Proofs.Markup.Rendering

/-! Markup as a tree: induction over markup, and the markup inside markup beside its parts. -/
namespace DesignCompiler.Markup.Jsx

/-- A property that passes from inner markup to the markup around it is one of all markup. -/
@[elab_as_elim, induction_eliminator]
theorem induction {P : Jsx → Prop} (comment : ∀ text, P (.comment text))
    (icon : ∀ i keyed, P (.icon i keyed))
    (component : ∀ tag overrides keyed, P (.component tag overrides keyed))
    (void : ∀ o, P (.void o)) (text : ∀ o content, P (.text o content))
    (inlined : ∀ o child, P child → P (.inlined o child))
    (block : ∀ o children, (∀ j ∈ children, P j) → P (.block o children))
    (each : ∀ c template, P template → P (.each c template)) (j : Jsx) : P j :=
  @Jsx.rec P (fun js => ∀ j ∈ js, P j) comment icon component void text inlined block each
    (fun _ hj => nomatch hj) (fun _ _ h hs => List.forall_mem_cons.mpr ⟨h,hs⟩) j

mutual

/-- The markup and all markup inside it, each before what stands in it. -/
def subtrees : Jsx → List Jsx
  | comment remark => [.comment remark]
  | icon i keyed => [.icon i keyed]
  | component tag overrides keyed => [.component tag overrides keyed]
  | void o => [.void o]
  | text o content => [.text o content]
  | inlined o child => .inlined o child :: child.subtrees
  | block o children => .block o children :: allSubtrees children
  | each c template => .each c template :: template.subtrees

def allSubtrees : List Jsx → List Jsx
  | [] => []
  | j :: js => j.subtrees ++ allSubtrees js

end

lemma allSubtrees_eq_flatMap (js : List Jsx) : allSubtrees js = js.flatMap subtrees := by
  induction js with
  | nil => rfl
  | cons j js ih => rw [allSubtrees, ih, List.flatMap_cons]

/-- The parts of markup apart from those of the markup inside it. -/
def ownParts : Jsx → List Part
  | comment remark => [.comment remark]
  | icon i _ => [.icon i]
  | component tag _ _ => [.component tag]
  | void o | inlined o _ | block o _ => [.opening o]
  | text o content => [.opening o, .content content]
  | each c _ => [.collection c]

/-- The parts of markup are those of all markup inside it, in order. -/
theorem parts_eq_flatMap_ownParts (j : Jsx) : j.parts = j.subtrees.flatMap ownParts := by
  induction j with
  | comment | icon | component | void | text => rfl
  | inlined o child ih | each c child ih =>
    rw [parts, subtrees, List.flatMap_cons, ih]
    rfl
  | block o children ih =>
    rw [parts, subtrees, List.flatMap_cons, allParts_eq_flatMap, allSubtrees_eq_flatMap,
      List.flatMap_assoc, List.flatMap_congr ih]
    rfl

end DesignCompiler.Markup.Jsx
