import DesignCompiler.Output.Memory
import DesignCompiler.Proofs.Json.Table

/-! Writing files to a store in memory. What becomes of a file depends on what the store held at its
own path and on nothing else, so files of different paths may be written in any order. -/
namespace DesignCompiler.Output
open UserBlocks

namespace MemoryStore

lemma get?_put (m : MemoryStore) (path content q : String) :
    (m.put path content).get? q = if path = q then some content else m.get? q := by
  rw [get?, put, Json.Decoder.find?_putEntry]
  split <;> rfl

/-- The plan of a file against what the store holds. -/
def planOf (m : MemoryStore) (f : String × String) : UpdatePlan := planUpdate (m.get? f.1) f.2

/-- What is written for a file: the content of its plan, unless its path is protected. -/
def written? (m : MemoryStore) (f : String × String) : Option String :=
  if f.1 ∈ m.denied then none else (m.planOf f).content

/-- Why a file is not written: its plan has content, but its path is protected. -/
def refusal? (m : MemoryStore) (f : String × String) : Option StoreError :=
  if f.1 ∈ m.denied ∧ (m.planOf f).content.isSome then some (.writeFailed f.1 "read-only") else none

/-- The outcome of one file and what it reports. -/
def reportOn (m : MemoryStore) (f : String × String) : WriteReport :=
  outcome f.1 (m.planOf f).action (m.planOf f).diagnostics (m.refusal? f)

/-- The store after one file. -/
def after (m : MemoryStore) (f : String × String) : MemoryStore :=
  (m.written? f).elim m (m.put f.1)

lemma applyUpdate_eq (m : MemoryStore) (f : String × String) :
    applyUpdate m f.1 f.2 = (m.after f,m.reportOn f) := by
  have hplan : planUpdate (m.get? f.1) f.2 = m.planOf f := rfl
  simp only [applyUpdate, FileStore.read, FileStore.write, write, after, reportOn, written?,
    refusal?, hplan]
  obtain ⟨action,content,reported⟩ := m.planOf f
  cases content with
  | none => simp
  | some text => by_cases hd : f.1 ∈ m.denied <;> simp [hd]

lemma applyUpdates_cons (m : MemoryStore) (f : String × String) (files : List (String × String)) :
    applyUpdates m (f :: files) = ((applyUpdates (m.after f) files).1,
      ⟨(m.reportOn f).outcomes ++ (applyUpdates (m.after f) files).2.outcomes,
        (m.reportOn f).diagnostics ++ (applyUpdates (m.after f) files).2.diagnostics⟩) := by
  rw [applyUpdates, applyUpdate_eq]

lemma outcomes_reportOn (m : MemoryStore) (f : String × String) :
    (m.reportOn f).outcomes = [⟨f.1,(m.planOf f).action,m.refusal? f⟩] := by
  rw [reportOn]
  cases m.refusal? f <;> rfl

lemma denied_after (m : MemoryStore) (f : String × String) : (m.after f).denied = m.denied := by
  rw [after]
  cases m.written? f <;> rfl

lemma get?_after (m : MemoryStore) (f : String × String) (q : String) :
    (m.after f).get? q = if f.1 = q then (m.written? f).or (m.get? q) else m.get? q := by
  rw [after]
  cases m.written? f with
  | none => simp
  | some text => simp [get?_put]

section
variable {m : MemoryStore} {f g : String × String} {files : List (String × String)} {path : String}

/-- One file leaves the plans of the others as they were. -/
lemma planOf_after (h : f.1 ≠ g.1) : (m.after f).planOf g = m.planOf g := by
  rw [planOf, get?_after, if_neg h, planOf]

lemma written?_after (h : f.1 ≠ g.1) : (m.after f).written? g = m.written? g := by
  rw [written?, denied_after, planOf_after h, written?]

lemma refusal?_after (h : f.1 ≠ g.1) : (m.after f).refusal? g = m.refusal? g := by
  rw [refusal?, denied_after, planOf_after h, refusal?]

/-! ## A list of files -/

lemma get?_applyUpdates_of_not_mem (h : path ∉ files.map (·.1)) :
    (applyUpdates m files).1.get? path = m.get? path := by
  induction files generalizing m with
  | nil => rfl
  | cons f files ih =>
    rw [List.map_cons, List.mem_cons, not_or] at h
    rw [applyUpdates_cons]
    dsimp only
    rw [ih h.2, get?_after, if_neg (Ne.symm h.1)]

/-- No file after the first one has its path, and none before the last one touches what that finds,
so each path holds what its own file leaves. -/
lemma get?_applyUpdates_of_mem (hn : (files.map (·.1)).Nodup) (hf : f ∈ files) :
    (applyUpdates m files).1.get? f.1 = (m.written? f).or (m.get? f.1) := by
  induction files generalizing m with
  | nil => nomatch hf
  | cons g files ih =>
    rw [List.map_cons, List.nodup_cons] at hn
    rw [applyUpdates_cons]
    dsimp only
    obtain rfl | hf := List.mem_cons.mp hf
    · rw [get?_applyUpdates_of_not_mem hn.1, get?_after, if_pos rfl]
    · have hne : g.1 ≠ f.1 := fun he => hn.1 (he ▸ List.mem_map_of_mem hf)
      rw [ih hn.2 hf, written?_after hne, get?_after, if_neg hne]

lemma outcomes_applyUpdates (hn : (files.map (·.1)).Nodup) :
    (applyUpdates m files).2.outcomes =
      files.map fun f => ⟨f.1,(m.planOf f).action,m.refusal? f⟩ := by
  induction files generalizing m with
  | nil => rfl
  | cons g files ih =>
    rw [List.map_cons, List.nodup_cons] at hn
    have hne : ∀ f ∈ files, g.1 ≠ f.1 := fun f hf he => hn.1 (he ▸ List.mem_map_of_mem hf)
    rw [applyUpdates_cons]
    dsimp only
    rw [outcomes_reportOn, ih hn.2, List.singleton_append, List.map_cons]
    congr 1
    refine List.map_congr_left fun f hf => ?_
    rw [planOf_after (hne f hf), refusal?_after (hne f hf)]

lemma get?_applyUpdates_of_perm {files' : List (String × String)} (hn : (files.map (·.1)).Nodup)
    (hp : files'.Perm files) (path : String) :
    (applyUpdates m files').1.get? path = (applyUpdates m files).1.get? path := by
  have hpaths := hp.map (·.1)
  by_cases hpath : path ∈ files.map (·.1)
  · obtain ⟨f,hf,rfl⟩ := List.mem_map.mp hpath
    rw [get?_applyUpdates_of_mem hn hf,
      get?_applyUpdates_of_mem (hpaths.nodup_iff.mpr hn) (hp.mem_iff.mpr hf)]
  · rw [get?_applyUpdates_of_not_mem hpath,
      get?_applyUpdates_of_not_mem (mt hpaths.mem_iff.mp hpath)]

/-- Files of different paths are written each for itself: a path holds the content of its file's
plan, or, when there is none or the path is protected, what it held; each outcome is that of the
file alone; and the order of the files does not matter. -/
theorem updates_isolated (hn : (files.map (·.1)).Nodup) :
    (∀ f ∈ files, f.1 ∉ m.denied → ∀ text ∈ (m.planOf f).content,
      (applyUpdates m files).1.get? f.1 = some text) ∧
    (∀ path, (∀ f ∈ files, f.1 = path → f.1 ∈ m.denied ∨ (m.planOf f).content = none) →
      (applyUpdates m files).1.get? path = m.get? path) ∧
    (applyUpdates m files).2.outcomes = (files.map fun f =>
      ⟨f.1,(m.planOf f).action,if f.1 ∈ m.denied ∧ (m.planOf f).content.isSome
        then some (.writeFailed f.1 "read-only") else none⟩) ∧
    ∀ files' : List (String × String), files'.Perm files → ∀ path,
      (applyUpdates m files').1.get? path = (applyUpdates m files).1.get? path := by
  refine ⟨?_,?_,outcomes_applyUpdates hn,fun files' hp => get?_applyUpdates_of_perm hn hp⟩
  · intro f hf hd text htext
    rw [get?_applyUpdates_of_mem hn hf, written?, if_neg hd, Option.mem_def.mp htext]
    rfl
  · intro path hleft
    by_cases hpath : path ∈ files.map (·.1)
    · obtain ⟨f,hf,rfl⟩ := List.mem_map.mp hpath
      have hnone : m.written? f = none := by
        rw [written?, ite_eq_left_iff]
        exact (hleft f hf rfl).resolve_left
      rw [get?_applyUpdates_of_mem hn hf, hnone, Option.none_or]
    · exact get?_applyUpdates_of_not_mem hpath

end

/-- A file that is merged, a new one whose path is protected, and one that is replaced. -/
theorem updates_isolated_readOnly :
    let kept := "// @canopy-user-start logic\nmine();\n// @canopy-user-end\n"
    let m : MemoryStore := ⟨[("a.tsx",kept),("c.tsx","old")],["b.tsx"]⟩
    let files := [("a.tsx","x\n// @canopy-user-start logic\n// @canopy-user-end\n"),
      ("b.tsx","b"),("c.tsx","new")]
    (applyUpdates m files.reverse).1.get? "a.tsx" = some ("x\n" ++ kept) ∧
    (applyUpdates m files).1.get? "b.tsx" = none ∧
    (applyUpdates m files).1.get? "c.tsx" = some "new" ∧
    (applyUpdates m files).2.outcomes = [⟨"a.tsx",.merge,none⟩,
      ⟨"b.tsx",.create,some (.writeFailed "b.tsx" "read-only")⟩,⟨"c.tsx",.overwrite,none⟩] := by
  intro kept m files
  obtain ⟨hwritten,hleft,houtcomes,hperm⟩ := @updates_isolated m files (by decide)
  refine ⟨?_,?_,?_,?_⟩
  · rw [hperm files.reverse files.reverse_perm]
    exact hwritten ("a.tsx",_) List.mem_cons_self (by decide) _ (by decide +kernel)
  · exact hleft "b.tsx" (by decide +kernel)
  · exact hwritten ("c.tsx","new") (by decide) (by decide) _ (by decide +kernel)
  · rw [houtcomes]
    decide +kernel

end MemoryStore

end DesignCompiler.Output
