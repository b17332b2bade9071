import DesignCompiler.Document.Node
import Mathlib.Data.List.Basic

/-! The tree of a document: induction over a slot and the slots inside it, and all of these as a
list. -/
namespace DesignCompiler.Document

/-- A property that passes from the children of a node to its slot, and that invalid children have,
is one of all slots. -/
@[elab_as_elim, induction_eliminator]
theorem Child.induction {P : Child → Prop}
    (node : ∀ attrs children, (∀ c ∈ children, P c) → P (.node attrs children))
    (invalid : ∀ bad, P (.invalid bad)) (c : Child) : P c :=
  @Child.rec P (fun cs => ∀ c ∈ cs, P c) node invalid
    (fun _ hc => nomatch hc) (fun _ _ h hs => List.forall_mem_cons.mpr ⟨h,hs⟩) c

namespace Child

mutual

/-- The slot and all slots inside it, parents before their children. -/
def subtrees : Child → List Child
  | node a cs => .node a cs :: subtreesIn cs
  | invalid bad => [.invalid bad]

def subtreesIn : List Child → List Child
  | [] => []
  | c :: cs => c.subtrees ++ subtreesIn cs

end

lemma subtreesIn_eq_flatMap (cs : List Child) : subtreesIn cs = cs.flatMap subtrees := by
  induction cs with
  | nil => rfl
  | cons c cs ih => rw [subtreesIn, ih, List.flatMap_cons]

lemma subtrees_node (a : Attributes) (cs : List Child) :
    (node a cs).subtrees = node a cs :: cs.flatMap subtrees := by
  rw [subtrees, subtreesIn_eq_flatMap]

lemma mem_subtrees_self (c : Child) : c ∈ c.subtrees := by
  cases c with
  | node a cs =>
    rw [subtrees]
    exact List.mem_cons_self
  | invalid bad => exact List.mem_singleton_self _

/-- What lies inside a slot of a tree lies in the tree. -/
lemma subtrees_subset {c d : Child} (hd : d ∈ c.subtrees) : d.subtrees ⊆ c.subtrees := by
  induction c with
  | invalid bad => rw [List.mem_singleton.mp hd]; exact List.Subset.refl _
  | node a cs ih =>
    rw [subtrees_node, List.mem_cons, List.mem_flatMap] at hd
    obtain rfl | ⟨c,hc,hd⟩ := hd
    · exact List.Subset.refl _
    · rw [subtrees_node]
      refine List.Subset.trans (ih c hc hd) (List.Subset.trans ?_ (List.subset_cons_self _ _))
      exact fun e he => List.mem_flatMap.mpr ⟨c,hc,he⟩

/-- What is found by its identity stands in the tree. -/
lemma mem_subtrees_of_find? {c : Child} {id : String} {n : Node} (hn : c.find? id = some n) :
    n.toChild ∈ c.subtrees := by
  induction c with
  | invalid bad => nomatch hn
  | node a cs ih =>
    rw [find?] at hn
    rw [subtrees_node, List.mem_cons, List.mem_flatMap]
    split at hn
    · cases hn
      exact .inl rfl
    · refine .inr ?_
      -- a second induction, over the slots among which the search goes on
      induction cs with
      | nil => nomatch hn
      | cons c cs ihcs =>
        obtain ⟨hfind,hrest⟩ := List.forall_mem_cons.mp ih
        rw [findIn?] at hn
        split at hn
        · next m hm => exact ⟨c,List.mem_cons_self,hfind (hn ▸ hm)⟩
        · obtain ⟨d,hd,hmem⟩ := ihcs hrest hn
          exact ⟨d,List.mem_cons_of_mem c hd,hmem⟩

end Child

end DesignCompiler.Document
