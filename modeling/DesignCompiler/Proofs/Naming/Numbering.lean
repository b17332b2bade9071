import DesignCompiler.Proofs.Naming.Fresh
import DesignCompiler.Proofs.Text.Trim

/-! The numbers of names that are made fresh one after the other. As long as no wanted name ends in
a digit, the number that a name gets is how often it has been wanted. -/
namespace DesignCompiler.Naming

/-- A name with its number. The first one goes without. -/
def numbered (name : String) (k : ℕ) : String := if k = 1 then name else name ++ toString k

/-- A name does not end in a digit, so that it is told from a number after it. -/
def Unnumbered (name : String) : Prop := ∀ c ∈ name.toList.getLast?, c.isDigit = false

section
variable {v w : String} {j k : ℕ} {used seen ws : List String}

lemma numbered_one (w : String) : numbered w 1 = w := if_pos rfl

lemma numbered_of_two_le (hk : 2 ≤ k) : numbered w k = w ++ toString k :=
  if_neg (Nat.ne_of_gt hk)

/-- Without the digits at its end, a name with a number is the name. -/
lemma dropEndWhile_numbered (hw : Unnumbered w) (k : ℕ) :
    Text.dropEndWhile Char.isDigit (numbered w k).toList = w.toList := by
  have hname : Text.dropEndWhile Char.isDigit w.toList = w.toList := by
    refine List.rdropWhile_eq_self_iff.mpr fun hne hdigit => ?_
    rw [hw _ (List.getLast?_eq_some_getLast hne)] at hdigit
    contradiction
  unfold numbered
  split
  · exact hname
  · have hdigits : ∀ c ∈ (toString k).toList.reverse, c.isDigit = true := fun c hc =>
      isDigit_of_mem_toString (List.mem_reverse.mp hc)
    rw [Text.dropEndWhile, String.toList_append, List.reverse_append,
      List.dropWhile_append_of_pos hdigits]
    exact hname

lemma numbered_injective (w : String) : Function.Injective (numbered w) := by
  intro j k h
  have happend : ∀ m : ℕ, w ≠ w ++ toString m := fun m he =>
    Nat.repr_ne_empty (String.append_eq_left_iff.mp he.symm)
  unfold numbered at h
  split_ifs at h with hj hk hk
  · rw [hj, hk]
  · exact absurd h (happend k)
  · exact absurd h.symm (happend j)
  · exact toString_injective ((String.append_right_inj w).mp h)

/-- A name and its number can be read back. -/
lemma numbered_eq_iff (hv : Unnumbered v) (hw : Unnumbered w) :
    numbered v j = numbered w k ↔ v = w ∧ j = k := by
  refine ⟨fun h => ?_,fun ⟨hvw,hjk⟩ => by rw [hvw, hjk]⟩
  have hvw : v = w := by
    rw [← String.toList_inj, ← dropEndWhile_numbered hv j, ← dropEndWhile_numbered hw k, h]
  subst hvw
  exact ⟨rfl,numbered_injective v h⟩

/-- Of every name, the numbers in use are those up to how often it has been wanted. -/
def Issued (seen used : List String) : Prop :=
  ∀ w k, Unnumbered w → 1 ≤ k → (numbered w k ∈ used ↔ k ≤ seen.count w)

lemma issued_nil : Issued [] [] := fun _ _ _ hk =>
  iff_of_false List.not_mem_nil (Nat.not_le.mpr hk)

/-- A fresh name has the number after those in use. -/
lemma Issued.fresh_eq (h : Issued seen used) (hw : Unnumbered w) :
    fresh used w = numbered w (seen.count w + 1) := by
  obtain ⟨hnew,hname | ⟨hwanted,n,hn,hname,hbefore⟩⟩ := isLeastUnused_fresh used w
  · rw [hname, ← numbered_one w, h w 1 hw le_rfl, Nat.not_le, Nat.lt_one_iff] at hnew
    rw [hname, hnew, Nat.zero_add, numbered_one]
  · rw [← numbered_of_two_le hn] at hname
    rw [hname, h w n hw (Nat.one_le_of_lt hn), Nat.not_le] at hnew
    have hlast : numbered w (n-1) ∈ used := by
      obtain rfl | hn := Nat.eq_or_lt_of_le hn
      · rwa [numbered_one]
      · rw [numbered_of_two_le (Nat.le_sub_one_of_lt hn)]
        exact hbefore (n-1) (Nat.le_sub_one_of_lt hn) (by omega)
    rw [h w (n-1) hw (by omega)] at hlast
    rw [hname, show n = seen.count w + 1 by omega]

lemma Issued.append (h : Issued seen used) (hw : Unnumbered w) :
    Issued (seen ++ [w]) (used ++ [numbered w (seen.count w + 1)]) := by
  intro v k hv hk
  rw [List.mem_append, List.mem_singleton, h v k hv hk, numbered_eq_iff hv hw, List.count_append,
    List.count_singleton]
  by_cases hvw : v = w
  · subst hvw
    simp
    omega
  · simp [hvw, Ne.symm hvw]

/-- Every name with the number that counts how often it has been wanted. -/
def numberedNames (seen : List String) : List String → List String
  | [] => []
  | w :: ws => numbered w (seen.count w + 1) :: numberedNames (seen ++ [w]) ws

/-- Names that are made fresh one after the other are counted. -/
theorem freshNames_eq_numberedNames (h : Issued seen used) (hws : ∀ w ∈ ws, Unnumbered w) :
    freshNames used ws = numberedNames seen ws := by
  induction ws generalizing seen used with
  | nil => rfl
  | cons w ws ih =>
    obtain ⟨hw,hws⟩ := List.forall_mem_cons.mp hws
    rw [freshNames, numberedNames, h.fresh_eq hw, ih (h.append hw) hws]

/-- The counted names are those with a number between how often they had been wanted before and how
often they have been in the end. -/
lemma mem_numberedNames {name : String} : name ∈ numberedNames seen ws ↔
    ∃ w k, seen.count w < k ∧ k ≤ (seen ++ ws).count w ∧ name = numbered w k := by
  induction ws generalizing seen with
  | nil =>
    rw [List.append_nil]
    exact iff_of_false List.not_mem_nil fun ⟨w,k,hlt,hle,_⟩ => Nat.not_lt.mpr hle hlt
  | cons w ws ih =>
    rw [numberedNames, List.mem_cons, ih, List.append_assoc, List.singleton_append]
    have hcount : ∀ v, (seen ++ [w]).count v = seen.count v + if w = v then 1 else 0 := fun v => by
      simp [List.count_append, List.count_singleton]
    simp only [hcount]
    constructor
    · rintro (rfl | ⟨v,k,hlt,hle,rfl⟩)
      · exact ⟨w,_,Nat.lt_succ_self _,by simp,rfl⟩
      · exact ⟨v,k,Nat.lt_of_le_of_lt (Nat.le_add_right _ _) hlt,hle,rfl⟩
    · rintro ⟨v,k,hlt,hle,rfl⟩
      by_cases hfirst : w = v ∧ k = seen.count v + 1
      · obtain ⟨rfl,rfl⟩ := hfirst
        exact .inl rfl
      · refine .inr ⟨v,k,?_,hle,rfl⟩
        split
        · next hwv =>
          have hk : k ≠ seen.count v + 1 := fun hk => hfirst ⟨hwv,hk⟩
          omega
        · exact hlt

end

end DesignCompiler.Naming
