import DesignCompiler.Naming.Fresh
import Mathlib.Data.List.Nodup
import Mathlib.Data.List.Perm.Subperm

/-! A fresh name is not in use: there is one more candidate than there are names in use, and no two
candidates are the same. It begins with the name that is wanted, and a search without a bound on the
numbers ends with it. Names that are made fresh one after the other are all different. -/
namespace DesignCompiler.Naming

/-- The digits of a number tell which one it is. -/
lemma toString_injective : Function.Injective (toString : ℕ → String) := by
  intro m n h
  rw [Nat.toString_eq_ofList_toDigits, Nat.toString_eq_ofList_toDigits, String.ofList_inj] at h
  have hd := congrArg (Nat.ofDigitChars 10 · 0) h
  simpa only [Nat.ofDigitChars_ten_toDigits] using hd

lemma isDigit_of_mem_toString {n : ℕ} {c : Char} (hc : c ∈ (toString n).toList) :
    c.isDigit = true := by
  rw [Nat.toString_eq_ofList_toDigits, String.toList_ofList] at hc
  exact Nat.isDigit_of_mem_toDigits (by decide) (by decide) hc

lemma length_candidates (wanted : String) (count : ℕ) :
    (candidates wanted count).length = count+1 := by
  simp [candidates]

lemma nodup_candidates (wanted : String) (count : ℕ) : (candidates wanted count).Nodup := by
  rw [candidates, List.nodup_cons]
  constructor
  · intro h
    obtain ⟨i,-,hi⟩ := List.mem_map.mp h
    have hlen := congrArg String.length hi
    rw [String.length_append, Nat.add_eq_left, String.length_eq_zero_iff] at hlen
    exact Nat.repr_ne_empty hlen
  · refine List.Nodup.map ?_ List.nodup_range
    intro i j hij
    exact Nat.add_right_cancel (toString_injective ((String.append_right_inj wanted).mp hij))

/-- A fresh name is not among those in use. -/
theorem fresh_not_mem (used : List String) (wanted : String) : fresh used wanted ∉ used := by
  obtain ⟨name,hmem,hnew⟩ : ∃ name ∈ candidates wanted used.length, name ∉ used := by
    by_contra! hall
    have hle := ((nodup_candidates wanted used.length).subperm hall).length_le
    rw [length_candidates] at hle
    omega
  unfold fresh
  cases hf : (candidates wanted used.length).find? (!used.contains ·) with
  | none =>
    have hused := List.find?_eq_none.mp hf name hmem
    simp [hnew] at hused
  | some found => simpa using List.find?_some hf

/-- A name is not in use, and it is the wanted one or, if that is in use, the wanted one with the
least number from two on that makes it so. -/
def IsLeastUnused (used : List String) (wanted name : String) : Prop :=
  name ∉ used ∧ (name = wanted ∨ wanted ∈ used ∧ ∃ n, 2 ≤ n ∧ name = wanted ++ toString n ∧
    ∀ m, 2 ≤ m → m < n → wanted ++ toString m ∈ used)

/-- A fresh name has the least number, if it has one. -/
theorem isLeastUnused_fresh (used : List String) (wanted : String) :
    IsLeastUnused used wanted (fresh used wanted) := by
  refine ⟨fresh_not_mem used wanted,?_⟩
  unfold fresh
  cases hf : (candidates wanted used.length).find? (!used.contains ·) with
  | none => exact .inl rfl
  | some name =>
    obtain ⟨-,i,hi,rfl,hbefore⟩ := List.find?_eq_some_iff_getElem.mp hf
    cases i with
    | zero => exact .inl rfl
    | succ i =>
      have hused : ∀ j (hj : j < i+1), (candidates wanted used.length)[j] ∈ used := fun j hj => by
        simpa using hbefore j hj
      refine .inr ⟨hused 0 (Nat.succ_pos i),i+2,Nat.le_add_left 2 i,?_,fun m hm hlt => ?_⟩
      · simp [candidates]
      · obtain ⟨j,rfl⟩ := Nat.exists_eq_add_of_le' hm
        simpa [candidates] using hused (j+1) (by omega)

/-- A fresh name is the wanted one, with a number after it unless that is free. -/
theorem exists_fresh_eq_append (used : List String) (wanted : String) :
    ∃ number : String, fresh used wanted = wanted ++ number ∧
      ∀ c ∈ number.toList, c.isDigit = true := by
  unfold fresh
  cases hf : (candidates wanted used.length).find? (!used.contains ·) with
  | none => exact ⟨"",String.append_empty.symm,List.forall_mem_nil _⟩
  | some name =>
    obtain rfl | hname := List.mem_cons.mp (List.mem_of_find?_eq_some hf)
    · exact ⟨"",String.append_empty.symm,List.forall_mem_nil _⟩
    · obtain ⟨i,-,rfl⟩ := List.mem_map.mp hname
      exact ⟨toString (i+2),rfl,fun c hc => isDigit_of_mem_toString hc⟩

/-! ## The search -/

/-- A search for a name that is not taken. It begins with some name and, as long as that is taken,
goes on with the wanted name and a number, one higher every time. -/
inductive Search (taken : String → Prop) (wanted : String) : String → ℕ → String → Prop
  | stop {name : String} {n : ℕ} (free : ¬ taken name) : Search taken wanted name n name
  | next {name found : String} {n : ℕ} (used : taken name)
      (rest : Search taken wanted (wanted ++ toString n) (n+1) found) :
      Search taken wanted name n found

section
variable {taken : String → Prop} {wanted name found found' : String} {n : ℕ}

/-- A search ends with one name only. -/
lemma Search.unique (h : Search taken wanted name n found) (h' : Search taken wanted name n found') :
    found = found' := by
  induction h with
  | stop free =>
    cases h' with
    | stop => rfl
    | next used => exact absurd used free
  | next used _ ih =>
    cases h' with
    | stop free => exact absurd used free
    | next _ rest => exact ih rest

/-- A search that has come to a taken name ends with the next number that is free. -/
lemma search_of_forall_lt {m : ℕ} (hfree : ¬ taken (wanted ++ toString (n+m)))
    (htaken : ∀ k < m, taken (wanted ++ toString (n+k))) (hname : taken name) :
    Search taken wanted name n (wanted ++ toString (n+m)) := by
  induction m generalizing n name with
  | zero => exact .next hname (.stop hfree)
  | succ m ih =>
    refine .next hname ?_
    rw [Nat.add_comm m, ← Nat.add_assoc] at hfree ⊢
    refine ih hfree (fun k hk => ?_) (htaken 0 (Nat.succ_pos m))
    rw [Nat.add_assoc, Nat.add_comm 1]
    exact htaken (k+1) (Nat.succ_lt_succ hk)

/-- The search from the wanted name on, with the numbers from two on, ends, and it ends with the
fresh name. -/
theorem search_iff (used : List String) (wanted found : String) :
    Search (· ∈ used) wanted wanted 2 found ↔ found = fresh used wanted := by
  have hfresh : Search (· ∈ used) wanted wanted 2 (fresh used wanted) := by
    obtain ⟨hfree,hname⟩ := isLeastUnused_fresh used wanted
    generalize fresh used wanted = name at hfree hname
    obtain rfl | ⟨hwanted,n,hn,rfl,hbefore⟩ := hname
    · exact .stop hfree
    · obtain ⟨m,rfl⟩ := Nat.exists_eq_add_of_le hn
      exact search_of_forall_lt hfree
        (fun k hk => hbefore _ (Nat.le_add_right 2 k) (Nat.add_lt_add_left hk 2)) hwanted
  exact ⟨fun h => h.unique hfresh,fun h => h ▸ hfresh⟩

end

/-! ## One name after the other -/

/-- Names that are made fresh one after the other. -/
def freshNames (used : List String) : List String → List String
  | [] => []
  | w :: ws => fresh used w :: freshNames (used ++ [fresh used w]) ws

lemma freshNames_append (used ws vs : List String) :
    freshNames used (ws ++ vs) =
      freshNames used ws ++ freshNames (used ++ freshNames used ws) vs := by
  induction ws generalizing used with
  | nil => rw [List.nil_append, freshNames, List.nil_append, List.append_nil]
  | cons w ws ih =>
    rw [List.cons_append, freshNames, freshNames, ih, List.cons_append, List.append_assoc,
      List.singleton_append]

/-- Fresh names are different from each other and from those in use before. -/
theorem nodup_freshNames (used ws : List String) :
    (freshNames used ws).Nodup ∧ ∀ name ∈ freshNames used ws, name ∉ used := by
  induction ws generalizing used with
  | nil => exact ⟨List.nodup_nil,List.forall_mem_nil _⟩
  | cons w ws ih =>
    obtain ⟨hnodup,hnew⟩ := ih (used ++ [fresh used w])
    have hfirst : fresh used w ∉ freshNames (used ++ [fresh used w]) ws := fun hmem =>
      hnew _ hmem (List.mem_append_right _ (List.mem_singleton_self _))
    refine ⟨List.nodup_cons.mpr ⟨hfirst,hnodup⟩,?_⟩
    refine List.forall_mem_cons.mpr ⟨fresh_not_mem used w,fun name hname hused => ?_⟩
    exact hnew name hname (List.mem_append_left _ hused)

lemma exists_of_mem_freshNames {used ws : List String} {name : String}
    (h : name ∈ freshNames used ws) : ∃ w ∈ ws, ∃ before, name = fresh before w := by
  induction ws generalizing used with
  | nil => cases h
  | cons w ws ih =>
    obtain rfl | h := List.mem_cons.mp h
    · exact ⟨w,List.mem_cons_self,used,rfl⟩
    · obtain ⟨v,hv,hname⟩ := ih h
      exact ⟨v,List.mem_cons_of_mem w hv,hname⟩

end DesignCompiler.Naming
