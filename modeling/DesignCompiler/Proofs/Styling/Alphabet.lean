import DesignCompiler.Proofs.Text.OneLine
import DesignCompiler.Styling.CssNumber

/-! The characters of values that are written from numbers: letters and digits, a few marks, and
spaces. A class can hold all of them but the spaces. -/
namespace DesignCompiler.Styling
open Text

/-- Characters that stand in classes and in values of themselves. -/
def isClassChar (c : Char) : Bool := c.isAlphanum || "-_.,+#%()[]'".toList.contains c

/-- A text of such characters and of spaces. -/
def IsValueText (s : String) : Prop := ∀ c ∈ s.toList, c = ' ' ∨ isClassChar c = true

instance (s : String) : Decidable (IsValueText s) := inferInstanceAs (Decidable (∀ _ ∈ _, _))

/-- Neither ends a line. -/
lemma IsValueText.oneLine {s : String} (h : IsValueText s) : OneLine s := fun hc =>
  absurd (h '\n' hc) (by decide)

@[simp] lemma isValueText_append {s u : String} :
    IsValueText (s ++ u) ↔ IsValueText s ∧ IsValueText u := by
  rw [IsValueText, String.toList_append, List.forall_mem_append]
  rfl

lemma isValueText_intercalate {sep : String} {ss : List String} (hsep : IsValueText sep)
    (hs : ∀ s ∈ ss, IsValueText s) : IsValueText (sep.intercalate ss) :=
  forall_mem_intercalate hsep hs

/-! ## Numbers -/

lemma isClassChar_of_isAlphanum {c : Char} (h : c.isAlphanum = true) : isClassChar c = true := by
  rw [isClassChar, h, Bool.true_or]

lemma isClassChar_of_isDigit (c : Char) (h : c.isDigit = true) : isClassChar c = true :=
  isClassChar_of_isAlphanum (by rw [Char.isAlphanum, h, Bool.or_true])

/-- Every written number is made of class characters. -/
lemma isClassChar_of_mem_write {f : Decimal.ShortForm} {x : Float} :
    ∀ c ∈ (f.write x).toList, isClassChar c = true :=
  Decimal.forall_mem_write isClassChar_of_isDigit (by decide) f x

lemma isClassChar_of_mem_toString {n : ℕ} : ∀ c ∈ (toString n).toList, isClassChar c = true := by
  rw [Nat.toString_eq_ofList_toDigits, String.toList_ofList]
  exact Decimal.forall_mem_digitChars isClassChar_of_isDigit n

lemma isClassChar_of_mem_twoPlaces {x : Float} :
    ∀ c ∈ (dropZeroPlaces (Decimal.twoPlaces x)).toList, isClassChar c = true := by
  intro c hc
  rw [dropZeroPlaces, String.toList_ofList] at hc
  obtain h | rfl | rfl := Decimal.isNumberChar_of_mem_twoPlaces c
    (dropEndWhile_subset _ _ (dropEndWhile_subset _ _ hc))
  · exact isClassChar_of_isAlphanum h
  · decide
  · decide

theorem isClassChar_of_mem_formatNumber {x : Float} :
    ∀ c ∈ (formatNumber x).toList, isClassChar c = true := by
  unfold formatNumber
  dsimp only
  split
  · decide
  · exact isClassChar_of_mem_twoPlaces

lemma isValueText_of_forall {s : String} (h : ∀ c ∈ s.toList, isClassChar c = true) :
    IsValueText s := fun c hc => .inr (h c hc)

lemma isValueText_formatNumber (x : Float) : IsValueText (formatNumber x) :=
  isValueText_of_forall isClassChar_of_mem_formatNumber

lemma isValueText_px (x : Float) : IsValueText (px x) :=
  isValueText_append.mpr ⟨isValueText_formatNumber x,by decide⟩

/-! ## Colors, shadows and gradients -/

lemma isClassChar_of_mem_hexByte {n : UInt8} : ∀ c ∈ Color.hexByte n, isClassChar c = true := by
  have hdigit : ∀ k < 16, isClassChar (Nat.digitChar k) = true := by decide
  have hn := n.toNat_lt
  simp only [Color.hexByte, List.forall_mem_cons]
  exact ⟨hdigit _ (by omega),hdigit _ (by omega),List.forall_mem_nil _⟩

theorem isValueText_toCss (c : Color) : IsValueText c.toCss := by
  have hbyte : ∀ n : UInt8, IsValueText (toString n) := fun n =>
    isValueText_of_forall (isClassChar_of_mem_toString (n := n.toNat))
  have hopacity : IsValueText (dropZeroPlaces (Decimal.twoPlaces (roundHundredths c.a))) :=
    isValueText_of_forall isClassChar_of_mem_twoPlaces
  unfold Color.toCss
  split
  · refine isValueText_of_forall ?_
    rw [Color.toHex, String.toList_ofList, List.forall_mem_append, List.forall_mem_append,
      List.forall_mem_cons]
    exact ⟨⟨⟨by decide,isClassChar_of_mem_hexByte⟩,isClassChar_of_mem_hexByte⟩,
      isClassChar_of_mem_hexByte⟩
  · simp +decide only [isValueText_append, hbyte, hopacity, and_self]

lemma isValueText_shadowText (s : Shadow) : IsValueText (shadowText s) := by
  have hinset : IsValueText (if s.inset then "inset " else "") := by split <;> decide
  refine isValueText_append.mpr ⟨hinset,isValueText_intercalate (by decide) ?_⟩
  simp [isValueText_px, isValueText_toCss]

theorem isValueText_shadowsText (shadows : List Shadow) : IsValueText (shadowsText shadows) :=
  isValueText_intercalate (by decide) (List.forall_mem_map.mpr fun s _ => isValueText_shadowText s)

theorem isValueText_gradientText (g : Gradient) {colors : List String}
    (h : ∀ c ∈ colors, IsValueText c) : IsValueText (gradientText g colors) := by
  have hstop : ∀ e ∈ g.stops.zip colors,
      IsValueText (e.2 ++ " " ++ formatNumber (e.1.position*100.0) ++ "%") := by
    intro e he
    have hcolor := h e.2 (List.of_mem_zip he).2
    simp +decide only [isValueText_append, isValueText_formatNumber, hcolor, and_self]
  have hstops := isValueText_intercalate (by decide : IsValueText ", ")
    (List.forall_mem_map.mpr hstop)
  unfold gradientText
  split <;> simp +decide only [isValueText_append, isValueText_formatNumber, hstops, and_self]

end DesignCompiler.Styling
