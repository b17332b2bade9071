import DesignCompiler.FromDesign.Registry
import DesignCompiler.Proofs.Document.Sites
import DesignCompiler.Proofs.Json.Table
import DesignCompiler.Proofs.Markup.FirstByKey

/-! What is known of the components of a document. Each identity has one entry: that of the first
component in the tree that has it, or else that of the published component. The entries stand in the
order in which their identities occur, first in the tree and then in the table. -/
namespace DesignCompiler
open Markup (firstByKey)

/-! ## Registering in turn -/

namespace ComponentRegistry

lemma get?_register (r : ComponentRegistry) (e : ComponentEntry) (id : String) :
    (r.register e).get? id = (r.get? id).or (if e.id = id then some e else none) := by
  unfold register
  split
  · next hknown =>
    split
    · next he =>
      rw [← he, Option.or_of_isSome hknown]
    · rw [Option.or_none]
  · rw [get?, List.find?_append, List.find?_singleton, get?]
    simp only [beq_iff_eq]

/-- Of the components that are registered one after the other, the first of an identity is found. -/
lemma get?_foldl_register (es : List ComponentEntry) (r : ComponentRegistry) (id : String) :
    (es.foldl register r).get? id = (r.get? id).or (es.find? (·.id == id)) := by
  induction es generalizing r with
  | nil => simp
  | cons e es ih =>
    rw [List.foldl_cons, ih, get?_register, Option.or_assoc, List.find?_cons]
    by_cases he : e.id = id
    · simp [he]
    · simp [he, beq_eq_false_iff_ne.mpr he]

lemma contains_eq (r : ComponentRegistry) (id : String) :
    r.contains id = (r.entries.map (·.id)).contains id := by
  rw [Bool.eq_iff_iff, contains, get?, List.find?_isSome, List.contains_iff_mem, List.mem_map]
  simp only [beq_iff_eq]

/-- Components that are registered one after the other stand in this order, each identity where it
occurs first. -/
lemma entries_foldl_register (es : List ComponentEntry) (r : ComponentRegistry) :
    (es.foldl register r).entries =
      r.entries ++ firstByKey (·.id) (r.entries.map (·.id)) es := by
  induction es generalizing r with
  | nil => exact (List.append_nil _).symm
  | cons e es ih =>
    rw [List.foldl_cons, ih, register, contains_eq, firstByKey]
    split
    · rfl
    · rw [List.append_assoc, List.map_append]
      refine congrArg _ (congrArg _ (Markup.firstByKey_congr fun id => ?_))
      rw [List.mem_append, List.map_singleton, List.mem_singleton, List.mem_cons, or_comm]

end ComponentRegistry

namespace FromDesign
open Document

/-! ## Components in the tree -/

/-- The entry of a component where it stands: with the name of the component set that it is directly
in. -/
def siteEntry (p : Site) : ComponentEntry :=
  ⟨p.node.attrs.id,p.node.attrs.name,
    (p.above.getLast?.filter (·.kind == .componentSet)).map (·.name)⟩

/-- At a site of a tree a component stands. -/
structure ComponentAt (root : Node) (p : Site) : Prop where
  inTree : p.InTree root
  kind : p.node.attrs.kind = .component

/-- The component at a site is the first in its tree that has its identity. -/
structure FirstComponent (root : Node) (p : Site) : Prop extends ComponentAt root p where
  first : ∀ q, ComponentAt root q → q.node.attrs.id = p.node.attrs.id → p.path ≤ q.path

/-- The components of a tree where they stand, in order. -/
def componentSites (root : Node) : List Site :=
  (root.toChild.sites [] []).filter (·.node.attrs.kind == .component)

lemma entriesInAll_eq_flatMap (parent : Attributes) (cs : List Child) :
    entriesInAll parent cs = cs.flatMap (entriesIn (some parent)) := by
  induction cs with
  | nil => rfl
  | cons c cs ih => rw [entriesInAll, ih, List.flatMap_cons]

/-- The entries of slots below a node are those of the sites there. -/
lemma entriesInAll_eq (path : List ℕ) (above : List Attributes) {a : Attributes} {cs : List Child}
    (h : ∀ c ∈ cs, ∀ path, entriesIn (some a) c =
      ((c.sites path (above ++ [a])).filter (·.node.attrs.kind == .component)).map siteEntry)
    (k : ℕ) : entriesInAll a cs =
      ((Child.sitesIn path (above ++ [a]) k cs).filter
        (·.node.attrs.kind == .component)).map siteEntry := by
  induction cs generalizing k with
  | nil => rfl
  | cons c cs ih =>
    obtain ⟨hc,hcs⟩ := List.forall_mem_cons.mp h
    rw [entriesInAll, Child.sitesIn, List.filter_append, List.map_append, hc, ih hcs]

/-- The entries of a tree are those of its components, in order. -/
theorem entriesIn_eq (c : Child) (path : List ℕ) (above : List Attributes) :
    entriesIn above.getLast? c =
      ((c.sites path above).filter (·.node.attrs.kind == .component)).map siteEntry := by
  induction c generalizing path above with
  | invalid bad => rfl
  | node a cs ih =>
    have hchildren := entriesInAll_eq path above
      (fun c hc path => by
        rw [← ih c hc path (above ++ [a]), List.getLast?_append, List.getLast?_singleton]
        rfl) 0
    rw [entriesIn, Child.sites, List.filter_cons, entryOf, hchildren]
    dsimp only
    split <;> rfl

lemma mem_componentSites {root : Node} {p : Site} :
    p ∈ componentSites root ↔ ComponentAt root p := by
  rw [componentSites, List.mem_filter, Child.mem_sites, beq_iff_eq]
  constructor
  · rintro ⟨⟨n,hn,hp⟩,hk⟩
    cases hn
    exact ⟨hp,hk⟩
  · exact fun h => ⟨⟨root,rfl,h.inTree⟩,h.kind⟩

lemma pairwise_componentSites (root : Node) :
    ((componentSites root).map (·.path)).Pairwise (· < ·) :=
  (Child.pairwise_sites _ _ _).sublist (List.filter_sublist.map _)

/-- In a list whose ways grow, what is found first is before all else of its kind. -/
lemma find?_eq_some_iff_of_pairwise {ps : List Site} (hps : (ps.map (·.path)).Pairwise (· < ·))
    {test : Site → Bool} {p : Site} :
    ps.find? test = some p ↔ p ∈ ps ∧ test p = true ∧
      ∀ q ∈ ps, test q = true → p.path ≤ q.path := by
  induction ps with
  | nil => simp
  | cons r ps ih =>
    rw [List.map_cons, List.pairwise_cons, List.forall_mem_map] at hps
    obtain ⟨hr,hps⟩ := hps
    rw [List.find?_cons]
    cases htest : test r with
    | true =>
      constructor
      · rintro ⟨⟩
        refine ⟨List.mem_cons_self,htest,List.forall_mem_cons.mpr ⟨fun _ => le_refl _,?_⟩⟩
        exact fun q hq _ => le_of_lt (hr q hq)
      · rintro ⟨hp,-,hfirst⟩
        obtain rfl | hp := List.mem_cons.mp hp
        · rfl
        · exact absurd (hr p hp) (not_lt_of_ge (hfirst r List.mem_cons_self htest))
    | false =>
      have hne : ∀ q, test q = true → q ≠ r := by
        rintro q hq rfl
        rw [htest] at hq
        contradiction
      rw [ih hps]
      constructor
      · rintro ⟨hp,htp,hfirst⟩
        refine ⟨List.mem_cons_of_mem r hp,htp,fun q hq htq => hfirst q ?_ htq⟩
        exact (List.mem_cons.mp hq).resolve_left (hne q htq)
      · rintro ⟨hp,htp,hfirst⟩
        refine ⟨(List.mem_cons.mp hp).resolve_left (hne p htp),htp,fun q hq => ?_⟩
        exact hfirst q (List.mem_cons_of_mem r hq)

lemma find?_componentSites {root : Node} {id : String} {p : Site} :
    (componentSites root).find? (·.node.attrs.id == id) = some p ↔
      FirstComponent root p ∧ p.node.attrs.id = id := by
  rw [find?_eq_some_iff_of_pairwise (pairwise_componentSites root), mem_componentSites]
  constructor
  · rintro ⟨hp,hid,hfirst⟩
    rw [beq_iff_eq] at hid
    refine ⟨⟨hp,fun q hq he => hfirst q (mem_componentSites.mpr hq) ?_⟩,hid⟩
    rw [beq_iff_eq, he, hid]
  · rintro ⟨hp,rfl⟩
    refine ⟨hp.toComponentAt,beq_self_eq_true _,fun q hq he => ?_⟩
    exact hp.first q (mem_componentSites.mp hq) (beq_iff_eq.mp he)

/-! ## All components -/

/-- A component of a document is found by its identity, if no other one has it. -/
lemma get?_registryOf {d : Document} {e : ComponentEntry}
    (hids : ((entriesIn none d.root.toChild).map (·.id)).Nodup)
    (he : e ∈ entriesIn none d.root.toChild) : (registryOf d).get? e.id = some e := by
  have hfind : (entriesIn none d.root.toChild).find? (·.id == e.id) = some e := by
    have hnodup : (((entriesIn none d.root.toChild).map fun e => (e.id,e)).map (·.1)).Nodup := by
      rwa [List.map_map]
    have hlookup := Json.Decoder.lookup_of_mem hnodup
      (List.mem_map_of_mem (f := fun e => (e.id,e)) he)
    rw [List.find?_map] at hlookup
    simpa [Function.comp_def] using hlookup
  rw [registryOf, ComponentRegistry.get?_foldl_register, List.find?_append, hfind]
  rfl

section
variable (d : Document)

/-- The entry of a component that a document lists as published: with the name of its component set,
if the document lists that too. -/
def entryOfPublished (c : String × ComponentMeta) : ComponentEntry :=
  ⟨c.1,c.2.name,(c.2.setId.bind fun id => d.componentSets.find? (·.1 == id)).map (·.2.name)⟩

lemma map_publishedEntry : d.components.map (fun (id,m) => publishedEntry d id m) =
    d.components.map (entryOfPublished d) := by
  refine List.map_congr_left fun c _ => ?_
  simp only [entryOfPublished, publishedEntry, Option.map_bind, Function.comp_def,
    Option.map_map]

lemma entriesIn_root :
    entriesIn none d.root.toChild = (componentSites d.root).map siteEntry :=
  entriesIn_eq d.root.toChild [] []

/-- What is known under an identity: the first component of the tree that has it, or else the
published one. -/
lemma get?_registryOf_eq (id : String) : (registryOf d).get? id =
    (((componentSites d.root).find? (·.node.attrs.id == id)).map siteEntry).or
      ((d.components.find? (·.1 == id)).map (entryOfPublished d)) := by
  rw [registryOf, map_publishedEntry, ComponentRegistry.get?_foldl_register, List.find?_append,
    entriesIn_root, List.find?_map, List.find?_map]
  rfl

/-- The entries stand in the order in which their identities occur. -/
lemma entries_registryOf : (registryOf d).entries =
    (firstByKey (·.node.attrs.id) [] (componentSites d.root)).map siteEntry ++
      (firstByKey (·.1) ((componentSites d.root).map (·.node.attrs.id)) d.components).map
        (entryOfPublished d) := by
  have hids : ((componentSites d.root).map siteEntry).map (·.id) =
      (componentSites d.root).map (·.node.attrs.id) := List.map_map
  rw [registryOf, map_publishedEntry, ComponentRegistry.entries_foldl_register, entriesIn_root,
    Markup.firstByKey_append, Markup.firstByKey_map, Markup.firstByKey_map, hids]
  rfl

/-- In a document each identity has one entry. It is that of the first component in the tree that
has the identity, with the name of its parent if that is a component set; where the tree has no such
component it is that of the published one, if there is one. The entries are those of the first
components in the order of the tree, and then those that are only published in the order of the
table. -/
theorem registry_contents :
    (∀ p, ComponentAt d.root p → ∃ q, FirstComponent d.root q ∧
      q.node.attrs.id = p.node.attrs.id ∧
      (registryOf d).get? p.node.attrs.id = some (siteEntry q)) ∧
    (∀ id, (∀ p, ComponentAt d.root p → p.node.attrs.id ≠ id) →
      (registryOf d).get? id =
        (d.components.find? (·.1 == id)).map (entryOfPublished d)) ∧
    ∃ ps : List Site, (ps.map (·.path)).Pairwise (· < ·) ∧
      (∀ p, p ∈ ps ↔ FirstComponent d.root p) ∧
      (registryOf d).entries = ps.map siteEntry ++
        (firstByKey (·.1) (ps.map (·.node.attrs.id)) d.components).map (entryOfPublished d) := by
  refine ⟨fun p hp => ?_,fun id hid => ?_,
    firstByKey (·.node.attrs.id) [] (componentSites d.root),?_,fun p => ?_,?_⟩
  · have hsome : ((componentSites d.root).find? fun q =>
        q.node.attrs.id == p.node.attrs.id).isSome = true :=
      List.find?_isSome.mpr ⟨p,mem_componentSites.mpr hp,beq_self_eq_true _⟩
    obtain ⟨q,hq⟩ := Option.isSome_iff_exists.mp hsome
    obtain ⟨hfirst,hid⟩ := find?_componentSites.mp hq
    refine ⟨q,hfirst,hid,?_⟩
    rw [get?_registryOf_eq, hq]
    rfl
  · have hnone : (componentSites d.root).find? (·.node.attrs.id == id) = none := by
      rw [List.find?_eq_none]
      intro p hp he
      exact hid p (mem_componentSites.mp hp) (beq_iff_eq.mp he)
    rw [get?_registryOf_eq, hnone]
    rfl
  · exact (pairwise_componentSites _).sublist ((Markup.firstByKey_sublist _ _ _).map _)
  · rw [Markup.mem_firstByKey_iff, find?_componentSites]
    simp
  · rw [entries_registryOf]
    refine congrArg _ (congrArg _ (Markup.firstByKey_congr fun id => ?_))
    simp only [List.mem_map]
    constructor
    · rintro ⟨p,hp,rfl⟩
      exact Markup.exists_mem_firstByKey hp List.not_mem_nil
    · rintro ⟨p,hp,rfl⟩
      exact ⟨p,Markup.mem_of_mem_firstByKey hp,rfl⟩

end

/-- A page with a component set, with another component of the first variant's identity, and with
two published components, of which the tree has one. -/
def togglePage : Document :=
  { Document.ofRoot ⟨.bare "0" "Page" .canvas,
      [.node (.bare "1" "Toggle" .componentSet) [.node (.bare "2" "On=True" .component) []],
      .node (.bare "2" "Copy" .component) []]⟩ with
    components := [("2",⟨"On=True","",some "1"⟩),("9",⟨"Size=Big","",some "8"⟩)]
    componentSets := [("8",⟨"Avatar","",none⟩)] }

example : (registryOf togglePage).entries =
    [⟨"2","On=True",some "Toggle"⟩,⟨"9","Size=Big",some "Avatar"⟩] := by
  decide +kernel

end FromDesign

end DesignCompiler
