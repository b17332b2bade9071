import DesignCompiler.Proofs.Decimal.Alphabet
import DesignCompiler.Proofs.Text.Lines
import DesignCompiler.Text.Blank
import DesignCompiler.Text.Letter
import Mathlib.Data.Int.Notation
import Mathlib.Data.Nat.Notation
import Mathlib.Tactic.SplitIfs

/-! Texts that stand on one line. What is put together from such texts is such a text again, and so
are the written forms of numbers and the lowercase of a text. -/
namespace DesignCompiler

namespace Text

lemma oneLine_ofList {cs : List Char} : OneLine (String.ofList cs) ↔ '\n' ∉ cs := by
  rw [OneLine, String.toList_ofList]

/-- All texts of a list stand on one line. -/
def AllOneLine (ls : List String) : Prop := ∀ l ∈ ls, OneLine l

instance (ls : List String) : Decidable (AllOneLine ls) := inferInstanceAs (Decidable (∀ _ ∈ ls, _))

@[simp] lemma allOneLine_nil : AllOneLine [] := List.forall_mem_nil _

@[simp] lemma allOneLine_cons {l : String} {ls : List String} :
    AllOneLine (l :: ls) ↔ OneLine l ∧ AllOneLine ls := List.forall_mem_cons

@[simp] lemma allOneLine_append {ls ms : List String} :
    AllOneLine (ls ++ ms) ↔ AllOneLine ls ∧ AllOneLine ms := List.forall_mem_append

lemma oneLine_join {ls : List String} : OneLine (String.join ls) ↔ AllOneLine ls := by
  simp [AllOneLine, OneLine, String.toList_join]

/-- What holds of the characters of some texts and of a separator holds of those of the texts that
are put together with it. -/
lemma forall_mem_intercalate {P : Char → Prop} {sep : String} {ls : List String}
    (hs : ∀ c ∈ sep.toList, P c) (h : ∀ l ∈ ls, ∀ c ∈ l.toList, P c) :
    ∀ c ∈ (sep.intercalate ls).toList, P c := by
  induction ls with
  | nil => exact List.forall_mem_nil _
  | cons l ls ih =>
    obtain ⟨hl,hls⟩ := List.forall_mem_cons.mp h
    cases ls with
    | nil => simpa using hl
    | cons m ls =>
      rw [String.intercalate_cons_of_ne_nil (List.cons_ne_nil _ _), String.toList_append,
        String.toList_append, List.forall_mem_append, List.forall_mem_append]
      exact ⟨⟨hl,hs⟩,ih hls⟩

lemma oneLine_iff {s : String} : OneLine s ↔ ∀ c ∈ s.toList, c ≠ '\n' :=
  ⟨fun h _ hc he => h (he ▸ hc),fun h hc => h _ hc rfl⟩

theorem oneLine_intercalate {sep : String} {ls : List String} (hs : OneLine sep)
    (h : AllOneLine ls) : OneLine (sep.intercalate ls) :=
  oneLine_iff.mpr (forall_mem_intercalate (oneLine_iff.mp hs) fun l hl => oneLine_iff.mp (h l hl))

lemma dropEndWhile_subset (p : Char → Bool) (cs : List Char) : dropEndWhile p cs ⊆ cs := by
  intro c hc
  rw [dropEndWhile, List.mem_reverse] at hc
  exact List.mem_reverse.mp (List.dropWhile_subset p hc)

/-! ## Letter case -/

section
variable {x : Char}

/-- Only small letters, and what has no case, are in small letters. -/
lemma eq_of_toLower (hx : x.toNat < 97) {c : Char} (h : c.toLower = x) : c = x := by
  unfold Char.toLower at h
  split at h
  · have hv := congrArg Char.val h
    have hn : x.val < 97 := UInt32.lt_iff_toNat_lt.mpr hx
    grind
  · exact h

lemma eq_lineFeed_of_toLower {c : Char} (h : c.toLower = '\n') : c = '\n' :=
  eq_of_toLower (by decide) h

lemma eq_lineFeed_of_toUpper {c : Char} (h : c.toUpper = '\n') : c = '\n' := by
  unfold Char.toUpper at h
  split at h
  · have hv := congrArg Char.val h
    grind
  · exact h

lemma ofNat_ne (h0 : 0 < x.toNat) {n : ℕ} (h : x.toNat < n) : Char.ofNat n ≠ x := by
  rintro rfl
  by_cases hv : n.isValidChar
  · have hn : (Char.ofNat n).toNat = n := by
      rw [Char.ofNat, dif_pos hv]
      rfl
    omega
  · rw [Char.ofNat, dif_neg hv] at h0
    exact absurd h0 (by decide)

/-- No range of capitals has a character below the small letters for one of its small letters. -/
lemma lt_toLower : ∀ r ∈ CaseTable.toLower, 96 < r.2.2.2 := by decide +kernel

lemma notMem_lowerChar (h0 : 0 < x.toNat) (hx : x.toNat < 97) {c : Char} (h : c ≠ x) :
    x ∉ lowerChar c := by
  unfold lowerChar
  split_ifs
  · rw [List.mem_singleton]
    exact fun he => h (eq_of_toLower hx he.symm)
  · simp only [List.mem_cons, List.not_mem_nil, or_false, not_or]
    constructor <;> rintro rfl <;> exact absurd hx (by decide)
  · split
    · next r hr =>
      have hr := lt_toLower r (List.mem_of_find?_eq_some hr)
      rw [List.mem_singleton]
      exact (ofNat_ne h0 (by omega)).symm
    · rw [List.mem_singleton]
      exact h.symm

lemma notMem_lowerAfter (h0 : 0 < x.toNat) (hx : x.toNat < 97) {cs : List Char} (h : x ∉ cs)
    (before : List Char) : x ∉ lowerAfter before cs := by
  induction cs generalizing before with
  | nil => exact h
  | cons c cs ih =>
    rw [List.mem_cons, not_or] at h
    rw [lowerAfter, List.mem_append, not_or]
    refine ⟨?_,ih h.2 _⟩
    split_ifs
    · rw [List.mem_singleton]
      rintro rfl
      exact absurd hx (by decide)
    · rw [List.mem_singleton]
      rintro rfl
      exact absurd hx (by decide)
    · exact notMem_lowerChar h0 hx (Ne.symm h.1)

/-- A text in small letters has no character below them that it did not have before. -/
theorem notMem_lower (h0 : 0 < x.toNat) (hx : x.toNat < 97) {s : String} (h : x ∉ s.toList) :
    x ∉ (lower s).toList := by
  rw [lower, String.toList_ofList]
  exact notMem_lowerAfter h0 hx h []

end

theorem oneLine_lower {s : String} (h : OneLine s) : OneLine (lower s) :=
  notMem_lower (by decide) (by decide) h

end Text

/-! ## Numbers -/

open Text

lemma digitChar_ne_lineFeed (n : ℕ) : Nat.digitChar n ≠ '\n' := by
  grind [Nat.digitChar]

namespace Decimal

lemma ne_lineFeed_of_isDigit (c : Char) (h : c.isDigit = true) : c ≠ '\n' := by
  rintro rfl
  contradiction

lemma oneLine_toString (n : ℕ) : OneLine (toString n) := by
  rw [Nat.toString_eq_ofList_toDigits, oneLine_ofList]
  exact fun h => forall_mem_digitChars ne_lineFeed_of_isDigit n '\n' h rfl

/-- A character of a number with a fixed count of places: a digit, a point or a sign, or a letter of
the words for what is not finite. -/
def IsNumberChar (c : Char) : Prop := c.isAlphanum = true ∨ c = '.' ∨ c = '-'

instance (c : Char) : Decidable (IsNumberChar c) := inferInstanceAs (Decidable (_ ∨ _))

lemma isNumberChar_of_isDigit (c : Char) (h : c.isDigit = true) : IsNumberChar c :=
  .inl (by rw [Char.isAlphanum, h, Bool.or_true])

theorem isNumberChar_of_mem_twoPlaces {x : Float} :
    ∀ c ∈ (twoPlaces x).toList, IsNumberChar c := by
  unfold twoPlaces
  split
  · decide
  · split <;> decide
  · next b _ =>
    have hsign : ∀ c ∈ if b.negative then ['-'] else [], IsNumberChar c := by
      split <;> decide
    have hzeros : ∀ n, ∀ c ∈ List.replicate n '0', IsNumberChar c := fun n c hc => by
      rw [List.eq_of_mem_replicate hc]
      decide
    simp only [String.toList_ofList, List.forall_mem_append, List.forall_mem_singleton]
    exact ⟨⟨⟨⟨hsign,forall_mem_digitChars isNumberChar_of_isDigit _⟩,by decide⟩,hzeros _⟩,
      forall_mem_digitChars isNumberChar_of_isDigit _⟩

end Decimal

end DesignCompiler
