import DesignCompiler.Decimal.Form
import Mathlib.Data.Int.Notation
import Mathlib.Data.Nat.Notation
import Mathlib.Tactic.Lemma
import Mathlib.Tactic.SplitIfs

/-! The characters of written numbers. Whatever holds of the digits and of a few marks holds of all
of them. -/
namespace DesignCompiler.Decimal

/-- What stands in written numbers beside digits: points, signs, the letter before an exponent, and
the words for what is not finite. -/
def marks : List Char := ['.','-','+','e','i','n','f','N','a']

section
variable {P : Char → Prop} (hd : ∀ c : Char, c.isDigit = true → P c) (hm : ∀ c ∈ marks, P c)

include hd

lemma forall_mem_digitChars (n : ℕ) : ∀ c ∈ digitChars n, P c := fun c hc =>
  hd c (Nat.isDigit_of_mem_toDigits (by decide) (by decide) hc)

include hm

lemma forall_mem_positionalChars {digits : List Char} (hds : ∀ c ∈ digits, P c) (exponent : ℤ)
    (keepsPoint : Bool) : ∀ c ∈ positionalChars digits exponent keepsPoint, P c := by
  have hz : P '0' := hd '0' (by decide)
  have hp : P '.' := hm '.' (by decide)
  have hzeros : ∀ n, ∀ c ∈ List.replicate n '0', P c := fun n c hc =>
    List.eq_of_mem_replicate hc ▸ hz
  have htake : ∀ n, ∀ c ∈ digits.take n, P c := fun n c hc => hds c (List.mem_of_mem_take hc)
  have hdrop : ∀ n, ∀ c ∈ digits.drop n, P c := fun n c hc => hds c (List.mem_of_mem_drop hc)
  unfold positionalChars
  dsimp only
  split_ifs
  all_goals simp only [List.forall_mem_append, List.forall_mem_cons]
  · exact ⟨⟨hds,hzeros _⟩,hp,hz,List.forall_mem_nil _⟩
  · exact ⟨⟨hds,hzeros _⟩,List.forall_mem_nil _⟩
  · exact ⟨⟨⟨hz,hp,List.forall_mem_nil _⟩,hzeros _⟩,hds⟩
  · exact ⟨⟨htake _,hp,List.forall_mem_nil _⟩,hdrop _⟩

lemma forall_mem_exponentChars {digits : List Char} (hds : ∀ c ∈ digits, P c) (exponent : ℤ) :
    ∀ c ∈ exponentChars digits exponent, P c := by
  have hp : P '.' := hm '.' (by decide)
  have he : P 'e' := hm 'e' (by decide)
  have hsign : P (if exponent < 0 then '-' else '+') := by
    split <;> exact hm _ (by decide)
  have hexponent := forall_mem_digitChars hd exponent.natAbs
  unfold exponentChars
  simp only [List.forall_mem_append, List.forall_mem_cons]
  refine ⟨⟨?_,he,hsign,List.forall_mem_nil _⟩,hexponent⟩
  split
  · exact List.forall_mem_nil _
  · exact hds
  · obtain ⟨hfirst,hrest⟩ := List.forall_mem_cons.mp hds
    exact List.forall_mem_cons.mpr ⟨hfirst,List.forall_mem_cons.mpr ⟨hp,hrest⟩⟩

lemma forall_mem_magnitudeChars (f : ShortForm) (b : Binary) :
    ∀ c ∈ f.magnitudeChars b, P c := by
  have hdigits := forall_mem_digitChars hd (shortest b).digits
  unfold ShortForm.magnitudeChars
  dsimp only
  split
  · exact forall_mem_positionalChars hd hm hdigits _ _
  · split
    · exact forall_mem_positionalChars hd hm hdigits _ _
    · exact forall_mem_exponentChars hd hm hdigits _

/-- A written number is put together from digits and marks, in every form. -/
theorem forall_mem_write (f : ShortForm) (x : Float) : ∀ c ∈ (f.write x).toList, P c := by
  have hwords : ∀ word : String, word.toList ⊆ marks → ∀ c ∈ word.toList, P c :=
    fun word hword c hc => hm c (hword hc)
  unfold ShortForm.write
  split
  · exact hwords "NaN" (by decide)
  · split
    · exact hwords "-inf" (by decide)
    · exact hwords "inf" (by decide)
  · next b _ =>
    have hsign : ∀ c ∈ if b.negative then ['-'] else [], P c := by
      split
      · exact List.forall_mem_singleton.mpr (hm '-' (by decide))
      · exact List.forall_mem_nil _
    rw [String.toList_ofList, List.forall_mem_append]
    exact ⟨hsign,forall_mem_magnitudeChars hd hm f b⟩

end

end DesignCompiler.Decimal
