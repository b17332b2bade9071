import DesignCompiler.Proofs.Document.Tree
import Mathlib.Data.List.Lex
import Mathlib.Logic.Relation

/-! Sites in the tree of a document: a node with the way to it from the root and with the nodes
above it. In the order of the tree, parents before their children, the ways grow lexicographically.
-/
namespace DesignCompiler.Document
open Relation

/-- A node where it stands in a tree. -/
structure Site where
  /-- The numbers of the slots on the way from the root. -/
  path : List ℕ
  /-- The nodes above, from the root on. -/
  above : List Attributes
  node : Node

namespace Site

/-- The root stands at the beginning of every way. -/
def ofRoot (root : Node) : Site := ⟨[],[],root⟩

/-- The site of a node in a slot of the one that stands here. -/
def slot (p : Site) (i : ℕ) (n : Node) : Site := ⟨p.path ++ [i],p.above ++ [p.node.attrs],n⟩

/-- One site is directly above another. -/
def IsParent (p q : Site) : Prop :=
  ∃ i c n, p.node.children[i]? = some c ∧ c.node? = some n ∧ q = p.slot i n

/-- The sites in the tree of a node. -/
def InTree (root : Node) (p : Site) : Prop := ReflTransGen IsParent (ofRoot root) p

/-- Below a site, its way is gone further, and there are the nodes above it and more. -/
lemma prefix_of_reflTransGen {p q : Site} (h : ReflTransGen IsParent p q) :
    p.path <+: q.path ∧ p.above <+: q.above := by
  induction h with
  | refl => exact ⟨List.prefix_rfl,List.prefix_rfl⟩
  | tail _ hstep ih =>
    obtain ⟨i,c,n,-,-,rfl⟩ := hstep
    exact ⟨ih.1.trans (List.prefix_append _ _),ih.2.trans (List.prefix_append _ _)⟩

/-- Below a site other than itself one is below one of its slots. -/
lemma reflTransGen_iff {p q : Site} : ReflTransGen IsParent p q ↔
    q = p ∨ ∃ i c n, p.node.children[i]? = some c ∧ c.node? = some n ∧
      ReflTransGen IsParent (p.slot i n) q := by
  rw [ReflTransGen.cases_head_iff, eq_comm]
  refine or_congr_right ⟨?_,?_⟩
  · rintro ⟨-,⟨i,c,n,hslot,hn,rfl⟩,hq⟩
    exact ⟨i,c,n,hslot,hn,hq⟩
  · rintro ⟨i,c,n,hslot,hn,hq⟩
    exact ⟨_,⟨i,c,n,hslot,hn,rfl⟩,hq⟩

end Site

namespace Child

mutual

/-- The sites in a slot with a given way and given nodes above it, in the order of the tree. -/
def sites (path : List ℕ) (above : List Attributes) : Child → List Site
  | node a cs => ⟨path,above,⟨a,cs⟩⟩ :: sitesIn path (above ++ [a]) 0 cs
  | invalid _ => []

/-- The sites in the slots from a given one on. -/
def sitesIn (path : List ℕ) (above : List Attributes) (i : ℕ) : List Child → List Site
  | [] => []
  | c :: cs => c.sites (path ++ [i]) above ++ sitesIn path above (i+1) cs

end

section
variable {path : List ℕ} {above : List Attributes} {p : Site}

lemma mem_sitesIn {k : ℕ} {cs : List Child} : p ∈ sitesIn path above k cs ↔
    ∃ (i : ℕ) (c : Child), cs[i]? = some c ∧ p ∈ c.sites (path ++ [k+i]) above := by
  induction cs generalizing k with
  | nil => simp [sitesIn]
  | cons c cs ih =>
    rw [sitesIn, List.mem_append, ih]
    constructor
    · rintro (hp | ⟨i,d,hd,hp⟩)
      · exact ⟨0,c,rfl,hp⟩
      · rw [Nat.add_right_comm] at hp
        exact ⟨i+1,d,hd,hp⟩
    · rintro ⟨i,d,hd,hp⟩
      cases i with
      | zero =>
        cases hd
        exact .inl hp
      | succ i =>
        rw [← Nat.add_assoc, Nat.add_right_comm] at hp
        exact .inr ⟨i,d,hd,hp⟩

/-- The sites in a slot are those in the tree of its node. -/
theorem mem_sites {c : Child} : p ∈ c.sites path above ↔
    ∃ n, c.node? = some n ∧ ReflTransGen Site.IsParent ⟨path,above,n⟩ p := by
  induction c generalizing path above with
  | invalid bad => simp [sites, node?]
  | node a cs ih =>
    have hbelow : p ∈ sitesIn path (above ++ [a]) 0 cs ↔ ∃ i c n, cs[i]? = some c ∧
        c.node? = some n ∧ ReflTransGen Site.IsParent ⟨path ++ [i],above ++ [a],n⟩ p := by
      rw [mem_sitesIn]
      constructor
      · rintro ⟨i,c,hc,hp⟩
        rw [Nat.zero_add, ih c (List.mem_of_getElem? hc)] at hp
        obtain ⟨n,hn,hp⟩ := hp
        exact ⟨i,c,n,hc,hn,hp⟩
      · rintro ⟨i,c,n,hc,hn,hp⟩
        refine ⟨i,c,hc,?_⟩
        rw [Nat.zero_add]
        exact (ih c (List.mem_of_getElem? hc)).mpr ⟨n,hn,hp⟩
    have hself : (∃ n, (node a cs).node? = some n ∧
        ReflTransGen Site.IsParent ⟨path,above,n⟩ p) ↔
        ReflTransGen Site.IsParent ⟨path,above,⟨a,cs⟩⟩ p := by
      simp [node?]
    rw [hself, Site.reflTransGen_iff, sites, List.mem_cons, hbelow]
    rfl

/-- The ways to the sites in a slot begin with the way to the slot. -/
lemma prefix_of_mem_sites {c : Child} (hp : p ∈ c.sites path above) :
    path <+: p.path ∧ above <+: p.above := by
  obtain ⟨n,-,hp⟩ := mem_sites.mp hp
  exact Site.prefix_of_reflTransGen hp

/-- The ways to the sites from a slot on go through that slot or a later one. -/
lemma exists_path_eq_of_mem_sitesIn {k : ℕ} {cs : List Child}
    (hp : p ∈ sitesIn path above k cs) : ∃ i rest, k ≤ i ∧ p.path = path ++ i :: rest := by
  obtain ⟨i,c,-,hp⟩ := mem_sitesIn.mp hp
  obtain ⟨rest,hrest⟩ := (prefix_of_mem_sites hp).1
  refine ⟨k+i,rest,Nat.le_add_right k i,?_⟩
  rw [← hrest, List.append_assoc, List.singleton_append]

lemma pairwise_sitesIn {cs : List Child}
    (h : ∀ c ∈ cs, ∀ path above, ((c.sites path above).map (·.path)).Pairwise (· < ·)) (k : ℕ) :
    ((sitesIn path above k cs).map (·.path)).Pairwise (· < ·) := by
  induction cs generalizing k with
  | nil => exact List.Pairwise.nil
  | cons c cs ih =>
    obtain ⟨hc,hcs⟩ := List.forall_mem_cons.mp h
    rw [sitesIn, List.map_append, List.pairwise_append, List.forall_mem_map]
    refine ⟨hc _ _,ih hcs _,fun p hp => List.forall_mem_map.mpr fun q hq => ?_⟩
    -- the first of the two goes through the slot itself, the second through a later one
    obtain ⟨rest,hrest⟩ := (prefix_of_mem_sites hp).1
    obtain ⟨i,rest',hi,hq⟩ := exists_path_eq_of_mem_sitesIn hq
    rw [← hrest, hq, List.append_assoc]
    exact List.Lex.append_left (· < ·) (List.Lex.rel (Nat.lt_of_succ_le hi)) path

/-- In the order of the tree the ways grow. -/
theorem pairwise_sites (c : Child) (path : List ℕ) (above : List Attributes) :
    ((c.sites path above).map (·.path)).Pairwise (· < ·) := by
  induction c generalizing path above with
  | invalid bad => exact List.Pairwise.nil
  | node a cs ih =>
    rw [sites, List.map_cons, List.pairwise_cons, List.forall_mem_map]
    refine ⟨fun p hp => ?_,pairwise_sitesIn ih 0⟩
    obtain ⟨i,rest,-,hp⟩ := exists_path_eq_of_mem_sitesIn hp
    have hlt : path ++ [] < path ++ i :: rest :=
      List.Lex.append_left (· < ·) List.Lex.nil path
    rw [List.append_nil] at hlt
    rwa [hp]

end

end Child

end DesignCompiler.Document
