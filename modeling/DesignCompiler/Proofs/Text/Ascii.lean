import DesignCompiler.Text.Letter
import Mathlib.Data.Nat.Notation
import Mathlib.Tactic.Lemma

/-! ASCII characters and their case. A fact about all of them is a fact about 128 numbers. -/
namespace DesignCompiler.Text

/-- What holds of the first 128 characters holds of every ASCII character. -/
lemma forall_ascii {P : Char → Prop} (h : ∀ n < 128, P (Char.ofNat n)) {c : Char}
    (hc : c.toNat < 128) : P c := by
  rw [← Char.ofNat_toNat c]
  exact h _ hc

section
variable {c : Char}

lemma toNat_lt_of_isAlphanum (h : c.isAlphanum = true) : c.toNat < 128 := by
  have hlast : 'Z'.val.toNat = 90 ∧ 'z'.val.toNat = 122 ∧ '9'.val.toNat = 57 := by decide
  have hle : c.val ≤ 'Z'.val ∨ c.val ≤ 'z'.val ∨ c.val ≤ '9'.val := by
    obtain hletter | hdigit := Bool.or_eq_true_iff.mp h
    · obtain hupper | hlower := Bool.or_eq_true_iff.mp hletter
      · exact .inl (of_decide_eq_true hupper).2
      · exact .inr (.inl (of_decide_eq_true (Bool.and_eq_true_iff.mp hlower).2))
    · exact .inr (.inr (of_decide_eq_true (Bool.and_eq_true_iff.mp hdigit).2))
  simp only [UInt32.le_iff_toNat_le] at hle
  change c.val.toNat < 128
  omega

lemma isAlphanum_toLower (h : c.isAlphanum = true) : c.toLower.isAlphanum = true :=
  forall_ascii (P := fun c => c.isAlphanum = true → c.toLower.isAlphanum = true)
    (by decide +kernel) (toNat_lt_of_isAlphanum h) h

lemma isAlphanum_toUpper (h : c.isAlphanum = true) : c.toUpper.isAlphanum = true :=
  forall_ascii (P := fun c => c.isAlphanum = true → c.toUpper.isAlphanum = true)
    (by decide +kernel) (toNat_lt_of_isAlphanum h) h

/-- A letter or digit that is no digit becomes a capital. -/
lemma isUpper_toUpper (h : c.isAlphanum = true) (hd : c.toUpper.isDigit = false) :
    c.toUpper.isUpper = true :=
  forall_ascii (P := fun c => c.isAlphanum = true → c.toUpper.isDigit = false →
    c.toUpper.isUpper = true) (by decide +kernel) (toNat_lt_of_isAlphanum h) h hd

/-- A letter or digit that is no digit becomes a small letter. -/
lemma isLower_toLower (h : c.isAlphanum = true) (hd : c.toLower.isDigit = false) :
    c.toLower.isLower = true :=
  forall_ascii (P := fun c => c.isAlphanum = true → c.toLower.isDigit = false →
    c.toLower.isLower = true) (by decide +kernel) (toNat_lt_of_isAlphanum h) h hd

lemma toLower_toUpper (h : c.isAlphanum = true) : c.toUpper.toLower = c.toLower :=
  forall_ascii (P := fun c => c.toUpper.toLower = c.toLower) (by decide +kernel)
    (toNat_lt_of_isAlphanum h)

lemma isAlphanum_of_isLower (h : c.isLower = true) : c.isAlphanum = true := by
  change ((c.isUpper || c.isLower) || c.isDigit) = true
  rw [h, Bool.or_true, Bool.true_or]

/-- Small letters are no capitals. -/
lemma isUpper_of_isLower (h : c.isLower = true) : c.isUpper = false :=
  forall_ascii (P := fun c => c.isLower = true → c.isUpper = false) (by decide +kernel)
    (toNat_lt_of_isAlphanum (isAlphanum_of_isLower h)) h

end

/-! ## Letter case -/

lemma toLower_of_le {c : Char} (h : 128 ≤ c.toNat) : c.toLower = c := by
  have hletters : 'Z'.val.toNat = 90 := by decide
  change 128 ≤ c.val.toNat at h
  unfold Char.toLower
  split
  · next hc =>
    rw [ge_iff_le, UInt32.le_iff_toNat_le, UInt32.le_iff_toNat_le] at hc
    omega
  · rfl

@[simp] lemma toLower_toLower (c : Char) : c.toLower.toLower = c.toLower := by
  by_cases h : c.toNat < 128
  · exact forall_ascii (P := fun c => c.toLower.toLower = c.toLower) (by decide +kernel) h
  · rw [toLower_of_le (Nat.le_of_not_lt h), toLower_of_le (Nat.le_of_not_lt h)]

/-- The letters outside ASCII that a text has are small, so that its case is a matter of ASCII. -/
def CapitalsAreAscii (s : String) : Prop := ∀ c ∈ s.toList, 128 ≤ c.toNat → lowerChar c = [c]

instance (s : String) : Decidable (CapitalsAreAscii s) :=
  List.decidableBAll _ _

lemma lowerAfter_eq_map {cs : List Char} (h : ∀ c ∈ cs, 128 ≤ c.toNat → lowerChar c = [c])
    (before : List Char) : lowerAfter before cs = cs.map Char.toLower := by
  induction cs generalizing before with
  | nil => rfl
  | cons c cs ih =>
    obtain ⟨hc,hcs⟩ := List.forall_mem_cons.mp h
    have hsigma : (c == 'Σ') = false := by
      rw [beq_eq_false_iff_ne]
      rintro rfl
      exact absurd (hc (by decide)) (by decide +kernel)
    have hlower : lowerChar c = [c.toLower] := by
      by_cases hascii : c.toNat < 128
      · rw [lowerChar, if_pos hascii]
      · rw [hc (Nat.le_of_not_lt hascii), toLower_of_le (Nat.le_of_not_lt hascii)]
    rw [lowerAfter, hsigma, if_neg (by decide), hlower, ih hcs, List.map_cons]
    rfl

lemma lower_eq_asciiLower {s : String} (h : CapitalsAreAscii s) : lower s = asciiLower s :=
  congrArg String.ofList (lowerAfter_eq_map h [])

theorem sameIgnoringAsciiCase_lower {s : String} (h : CapitalsAreAscii s) :
    sameIgnoringAsciiCase s (lower s) = true := by
  rw [lower_eq_asciiLower h, sameIgnoringAsciiCase, beq_iff_eq]
  simp [asciiLower, Function.comp_def]

end DesignCompiler.Text
