import DesignCompiler.Json.Decoder
import Mathlib.Algebra.BigOperators.Group.List.Basic
import Mathlib.Data.List.Forall2
import Mathlib.Data.Nat.Notation
import Mathlib.Tactic.Lemma
import Mathlib.Tactic.SplitIfs

/-! JSON strings are read back: whatever is escaped is read as what it is escaped for. No control
character stands in a literal as it is. -/
namespace DesignCompiler.Json

namespace Reader

/-! ## Units -/

/-- What is written for a character: a backslash with the letter that stands for it, the number of a
control character in four digits, or the character itself. -/
inductive EscapeOf (c : Char) : List Char → Prop
  | letter {e : Char} : escape? e = some c → e ≠ 'u' → 32 ≤ e.toNat → EscapeOf c ['\\',e]
  | number : c.toNat < 32 → EscapeOf c
      ['\\','u','0','0',Nat.digitChar (c.toNat / 16),Nat.digitChar (c.toNat % 16)]
  | self : c ≠ '"' → c ≠ '\\' → 32 ≤ c.toNat → EscapeOf c [c]

lemma escapeOf_escapeChar (c : Char) : EscapeOf c (escapeChar c) := by
  have hof : ∀ n, (c.toNat == n) = true → Char.ofNat n = c := fun n h =>
    beq_iff_eq.mp h ▸ Char.ofNat_toNat c
  unfold escapeChar
  split_ifs with hquote hbackslash hfeed hreturn htab hback hform hlow
  · exact .letter (congrArg some (beq_iff_eq.mp hquote).symm) (by decide) (by decide)
  · exact .letter (congrArg some (beq_iff_eq.mp hbackslash).symm) (by decide) (by decide)
  · exact .letter (beq_iff_eq.mp hfeed ▸ rfl) (by decide) (by decide)
  · exact .letter (beq_iff_eq.mp hreturn ▸ rfl) (by decide) (by decide)
  · exact .letter (beq_iff_eq.mp htab ▸ rfl) (by decide) (by decide)
  · exact .letter (congrArg some (hof 8 hback)) (by decide) (by decide)
  · exact .letter (congrArg some (hof 12 hform)) (by decide) (by decide)
  · exact .number hlow
  · exact .self (by simpa using hquote) (by simpa using hbackslash) (Nat.le_of_not_lt hlow)

/-- The unit as which a character of a literal is read: the character, or its number if it is a
control character without an escape of one letter. -/
inductive UnitOf : ℕ ⊕ Char → Char → Prop
  | self (c : Char) : UnitOf (.inr c) c
  | number {c : Char} : c.toNat < 32 → UnitOf (.inl c.toNat) c

lemma hexValue?_digitChar : ∀ n < 16, hexValue? (Nat.digitChar n) = some n := by decide

/-- Four digits of which the first two are zeros. -/
lemma hex4?_digitChar {n : ℕ} (h : n < 32) (rest : List Char) :
    hex4? ('0' :: '0' :: Nat.digitChar (n / 16) :: Nat.digitChar (n % 16) :: rest) =
      some (n,rest) := by
  have hzero : hexValue? '0' = some 0 := by decide
  have hhigh := hexValue?_digitChar (n / 16) (by omega)
  have hlow := hexValue?_digitChar (n % 16) (by omega)
  have hsum : ((0 * 16 + 0) * 16 + n / 16) * 16 + n % 16 = n := by omega
  simp only [hex4?, hzero, hhigh, hlow, hsum]

/-- The characters that are written for one character are read as one unit. -/
lemma exists_unit (c : Char) : ∃ u, UnitOf u c ∧ ∀ fuel rest acc,
    units (fuel + 1) (escapeChar c ++ rest) acc = units fuel rest (u :: acc) := by
  have hc := escapeOf_escapeChar c
  generalize escapeChar c = cs at hc ⊢
  cases hc with
  | letter he hu => exact ⟨_,.self c,fun fuel rest acc => by simp [units, he, hu]⟩
  | number hlow =>
    exact ⟨_,.number hlow,fun fuel rest acc => by simp [units, hex4?_digitChar hlow]⟩
  | self hquote hbackslash hlow =>
    have hlow' := Nat.not_lt_of_le hlow
    exact ⟨_,.self c,fun fuel rest acc => by simp [units, hquote, hbackslash, hlow']⟩

/-- A literal is read as one unit for each character of its text. -/
lemma exists_units (cs rest : List Char) : ∃ us, List.Forall₂ UnitOf us cs ∧
    ∀ fuel acc, cs.length < fuel →
      units fuel (cs.flatMap escapeChar ++ '"' :: rest) acc = some (acc.reverse ++ us,rest) := by
  induction cs with
  | nil =>
    refine ⟨[],.nil,fun fuel acc h => ?_⟩
    obtain ⟨fuel,rfl⟩ := Nat.exists_eq_succ_of_ne_zero (Nat.ne_of_gt h)
    simp [units]
  | cons c cs ih =>
    obtain ⟨u,hu,hstep⟩ := exists_unit c
    obtain ⟨us,hus,hread⟩ := ih
    refine ⟨u :: us,.cons hu hus,fun fuel acc h => ?_⟩
    obtain ⟨fuel,rfl⟩ := Nat.exists_eq_succ_of_ne_zero (Nat.ne_of_gt (Nat.zero_lt_of_lt h))
    rw [List.flatMap_cons, List.append_assoc, hstep, hread fuel _ (Nat.lt_of_succ_lt_succ h)]
    simp

/-! ## Characters -/

lemma joinHalves_inl {n : ℕ} (h : n < 32) (us : List (ℕ ⊕ Char)) :
    joinHalves (.inl n :: us) = (joinHalves us).map (Char.ofNat n :: ·) := by
  have hhigh : isHighHalf n = false := by simp [isHighHalf]; omega
  have hlow : isLowHalf n = false := by simp [isLowHalf]; omega
  conv_lhs => rw [joinHalves.eq_def]
  match us with
  | [] | .inl m :: us | .inr c :: us => simp [hhigh, hlow]

/-- The units of a text are put together to the text: none of them is half a surrogate pair. -/
lemma joinHalves_eq {us : List (ℕ ⊕ Char)} {cs : List Char} (h : List.Forall₂ UnitOf us cs) :
    joinHalves us = some cs := by
  induction h with
  | nil => rw [joinHalves]
  | cons hu _ ih =>
    cases hu with
    | self c => rw [joinHalves, ih]; rfl
    | number hlow => rw [joinHalves_inl hlow, ih, Char.ofNat_toNat]; rfl

/-! ## Strings -/

lemma escapeChar_ne_nil (c : Char) : escapeChar c ≠ [] := by
  have hc := escapeOf_escapeChar c
  generalize escapeChar c = cs at hc ⊢
  cases hc <;> exact List.cons_ne_nil _ _

/-- A string is read from its literal. -/
theorem string?_flatMap_escapeChar (cs rest : List Char) :
    string? (cs.flatMap escapeChar ++ '"' :: rest) = some (some (String.ofList cs),rest) := by
  obtain ⟨us,hus,hread⟩ := exists_units cs rest
  have hlength : cs.length ≤ (cs.flatMap escapeChar).length := by
    rw [List.length_flatMap, ← List.length_map (fun c => (escapeChar c).length)]
    refine List.length_le_sum_of_one_le _ (List.forall_mem_map.mpr fun c _ => ?_)
    exact List.length_pos_iff.mpr (escapeChar_ne_nil c)
  have hfuel : cs.length < (cs.flatMap escapeChar ++ '"' :: rest).length + 1 := by
    rw [List.length_append]
    omega
  simp only [string?, hread _ _ hfuel, List.reverse_nil, List.nil_append, Option.map_some,
    joinHalves_eq hus]

end Reader

/-- The text of a string literal with nothing around it. -/
def literalText? (s : String) : Option String :=
  match s.toList with
  | '"' :: cs =>
    match Reader.string? cs with
    | some (text,[]) => text
    | _ => none
  | _ => none

lemma literalText?_eq_some_iff {literal s : String} : literalText? literal = some s ↔
    ∃ cs, literal.toList = '"' :: cs ∧ Reader.string? cs = some (some s,[]) := by
  unfold literalText?
  constructor
  · intro h
    split at h
    · next cs hcs =>
      split at h
      · next text hread => exact ⟨cs,hcs,h ▸ hread⟩
      · cases h
    · cases h
  · rintro ⟨cs,hcs,hread⟩
    simp only [hcs, hread]

/-- A literal is read as the text for which it is written. -/
theorem literalText?_quote (s : String) : literalText? (quote s) = some s := by
  have hread := Reader.string?_flatMap_escapeChar s.toList []
  rw [String.ofList_toList] at hread
  exact literalText?_eq_some_iff.mpr ⟨_,String.toList_ofList,hread⟩

/-- No control character stands in a literal. -/
theorem le_of_mem_quote (s : String) : ∀ c ∈ (quote s).toList, 32 ≤ c.toNat := by
  have hdigit : ∀ n < 16, 32 ≤ (Nat.digitChar n).toNat := by decide
  have hchar : ∀ x, ∀ c ∈ escapeChar x, 32 ≤ c.toNat := by
    intro x
    have hx := Reader.escapeOf_escapeChar x
    generalize escapeChar x = cs at hx ⊢
    cases hx with
    | letter _ _ he => simpa using he
    | number hlow =>
      have hhigh := hdigit (x.toNat / 16) (by omega)
      have hlow' := hdigit (x.toNat % 16) (by omega)
      simpa using ⟨hhigh,hlow'⟩
    | self _ _ hlow => simpa using hlow
  intro c hc
  rw [quote, String.toList_ofList, quoteChars] at hc
  simp only [List.cons_append, List.mem_cons, List.mem_append, List.mem_flatMap] at hc
  obtain rfl | ⟨x,-,hx⟩ | rfl | hc := hc
  · decide
  · exact hchar x c hx
  · decide
  · nomatch hc

end DesignCompiler.Json
