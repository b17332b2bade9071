import DesignCompiler.Proofs.Styling.Classes
import DesignCompiler.Proofs.Styling.CustomProperties
import DesignCompiler.Proofs.Text.Words
import DesignCompiler.Styling.Styler

/-! Classes are read back from the attribute that holds them when none contains white space or a
double quote. The keys of a token table are not kept from either, and of a font's name or an image's
reference only the spaces are escaped. -/
namespace DesignCompiler.Styling
open Text Tokens

/-! ## Reading classes -/

/-- The classes in the value of an attribute: the words between two double quotes, where the value
begins with the first and ends with the next. -/
def classNames? (value : String) : Option (List String) :=
  match value.toList with
  | '"' :: cs =>
    match cutAt '"' cs with
    | some (names,[]) => some ((blankSeparated names).map String.ofList)
    | _ => none
  | _ => none

/-- A character that neither separates classes nor ends their attribute. -/
def isClassNameChar (c : Char) : Bool := !isBlank c && c != '"'

/-- A text that is one class. -/
def IsClassName (s : String) : Prop := s ≠ "" ∧ ∀ c ∈ s.toList, isClassNameChar c = true

instance (s : String) : Decidable (IsClassName s) := inferInstanceAs (Decidable (_ ∧ _))

lemma isClassNameChar_eq_true {c : Char} :
    isClassNameChar c = true ↔ isBlank c = false ∧ c ≠ '"' := by
  rw [isClassNameChar, Bool.and_eq_true, Bool.not_eq_true', bne_iff_ne]

/-- The attribute of some classes. -/
lemma attributes_classes (cs : List String) :
    (StyleUse.classes cs).attributes = [("className","\"" ++ " ".intercalate cs ++ "\"")] := rfl

lemma toList_classes (cs : List String) : ("\"" ++ " ".intercalate cs ++ "\"").toList =
    '"' :: ([' '].intercalate (cs.map String.toList) ++ ['"']) := by
  rw [String.toList_append, String.toList_append, String.toList_intercalate]
  rfl

/-- Classes are read back exactly if each of them is one class. -/
theorem classNames?_eq_some_iff (cs : List String) :
    classNames? ("\"" ++ " ".intercalate cs ++ "\"") = some cs ↔ ∀ s ∈ cs, IsClassName s := by
  have hread : ∀ text : List Char, classNames? (String.ofList ('"' :: text)) =
      match cutAt '"' text with
      | some (names,[]) => some ((blankSeparated names).map String.ofList)
      | _ => none := by
    intro text
    rw [classNames?, String.toList_ofList]
    rfl
  rw [← String.ofList_toList (s := "\"" ++ " ".intercalate cs ++ "\""), toList_classes, hread]
  constructor
  · intro h
    by_cases hquote : '"' ∈ [' '].intercalate (cs.map String.toList)
    · obtain ⟨as,bs,happend,has⟩ := List.eq_append_cons_of_mem hquote
      rw [happend, List.append_assoc, List.cons_append, cutAt_append has] at h
      cases bs <;> contradiction
    · rw [cutAt_append hquote] at h
      have hwords : blankSeparated ([' '].intercalate (cs.map String.toList)) =
          cs.map String.toList := by
        have hcs := congrArg (List.map String.toList) (Option.some.inj h)
        simpa [List.map_map, Function.comp_def] using hcs
      intro s hs
      have hmem : s.toList ∈ cs.map String.toList := List.mem_map_of_mem hs
      obtain ⟨hne,hblank⟩ := of_mem_words (p := isBlank) (hwords.symm ▸ hmem)
      refine ⟨by simpa using hne,fun c hc => isClassNameChar_eq_true.mpr ⟨hblank c hc,?_⟩⟩
      rintro rfl
      exact hquote (mem_intercalate.mpr (.inl ⟨_,hmem,hc⟩))
  · intro h
    have hquote : '"' ∉ [' '].intercalate (cs.map String.toList) := by
      rw [mem_intercalate]
      rintro (⟨w,hw,hc⟩ | ⟨hc,-⟩)
      · obtain ⟨s,hs,rfl⟩ := List.mem_map.mp hw
        exact (isClassNameChar_eq_true.mp ((h s hs).2 _ hc)).2 rfl
      · exact absurd hc (by decide)
    have hwords : ∀ w ∈ cs.map String.toList, w ≠ [] ∧ ∀ c ∈ w, isBlank c = false :=
      List.forall_mem_map.mpr fun s hs => ⟨by simpa using (h s hs).1,
        fun c hc => (isClassNameChar_eq_true.mp ((h s hs).2 c hc)).1⟩
    rw [cutAt_append hquote]
    dsimp only
    rw [blankSeparated, ← words, words_intercalate (by decide) hwords, List.map_map]
    simp

/-! ## Classes of elements -/

/-- An inserted text that keeps classes apart. It has neither white space nor a double quote, except
that a free text may have spaces. -/
def Insert.Fits : Insert → Prop
  | key s => ∀ c ∈ s.toList, isClassNameChar c = true
  | free s => ∀ c ∈ s.toList, c = ' ' ∨ isClassNameChar c = true

instance (i : Insert) : Decidable i.Fits := by
  cases i
  all_goals exact inferInstanceAs (Decidable (∀ _ ∈ _, _))

lemma Insert.fits_iff {i : Insert} :
    i.Fits ↔ ∀ c ∈ i.written.toList, isClassNameChar c = true := by
  cases i with
  | key s => exact Iff.rfl
  | free s =>
    refine ⟨fun h c hc => ?_,fun h c hc => ?_⟩
    · obtain ⟨hc,hne⟩ | ⟨rfl,-⟩ := mem_arbitrary.mp hc
      · exact (h c hc).resolve_left hne
      · decide
    · by_cases hne : c = ' '
      · exact .inl hne
      · exact .inr (h c (mem_arbitrary.mpr (.inl ⟨hc,hne⟩)))

/-- What classes contain of themselves keeps them apart. -/
lemma isClassNameChar_of_isClassChar (c : Char) (hc : isClassChar c = true) :
    isClassNameChar c = true := by
  obtain hc | hc := Bool.or_eq_true_iff.mp hc
  · exact forall_ascii (P := fun c => c.isAlphanum = true → isClassNameChar c = true)
      (by decide +kernel) (toNat_lt_of_isAlphanum hc) hc
  · have hmarks : ∀ c ∈ "-_.,+#%()[]'".toList, isClassNameChar c = true := by decide
    exact hmarks c (List.contains_iff_mem.mp hc)

/-- The style of an element by classes: there is no attribute without classes. -/
lemma styleByClasses_snd (s : Scheme) (p : Progress) (h : ElementHead) :
    (styleByClasses s p h).2 =
      if (utilityClasses s.tokens h).1.isEmpty then .plain
      else .classes (utilityClasses s.tokens h).1 := by
  unfold styleByClasses
  obtain ⟨cs,tally⟩ := utilityClasses s.tokens h
  rfl

/-- The classes of an element are separate, and are read back from its attribute, exactly if all
texts that are inserted in them fit. -/
theorem classes_separate_iff (s : Scheme) (p : Progress) (h : ElementHead) :
    let cs := (utilityClasses s.tokens h).1
    let attributes := (styleByClasses s p h).2.attributes
    ((∀ c ∈ cs, IsClassName c) ↔ ∀ i ∈ inserts s.tokens h, i.Fits) ∧
      (cs = [] ∧ attributes = [] ∨ ∃ value, attributes = [("className",value)] ∧
        (classNames? value = some cs ↔ ∀ i ∈ inserts s.tokens h, i.Fits)) := by
  intro cs attributes
  have hspelled := spells_utilityClasses s.tokens h
  have hnames : (∀ c ∈ cs, IsClassName c) ↔ ∀ i ∈ inserts s.tokens h, i.Fits := by
    simp only [Insert.fits_iff]
    rw [← hspelled.forall_iff isClassNameChar_of_isClassChar]
    exact forall₂_congr fun c hc => and_iff_right (hspelled.nonempty c hc)
  have hattributes : attributes =
      (if cs.isEmpty then StyleUse.plain else .classes cs).attributes :=
    congrArg StyleUse.attributes (styleByClasses_snd s p h)
  refine ⟨hnames,?_⟩
  by_cases hcs : cs = []
  · refine .inl ⟨hcs,?_⟩
    rw [hattributes, if_pos (List.isEmpty_iff.mpr hcs)]
    rfl
  · refine .inr ⟨"\"" ++ " ".intercalate cs ++ "\"",?_,(classNames?_eq_some_iff cs).trans hnames⟩
    rw [hattributes, if_neg (mt List.isEmpty_iff.mp hcs), attributes_classes]

/-- With a space in its key, a token for a length gives two classes, of which neither is meant. -/
theorem spaced_key_is_two_classes :
    let t : TokenTable := { TokenTable.empty with spacing := [("my gap",16.0)] }
    let h : ElementHead := { ElementHead.bare "0" .container "div" "Badge" with
      layout := { Layout.plain with display := .flex, gap := some 16.0 } }
    t.badColor? = none ∧ (utilityClasses t h).1 = ["flex","gap-my gap"] ∧
      (styleByClasses ⟨.tailwind,false,t⟩ .start h).2.attributes =
        [("className","\"flex gap-my gap\"")] ∧
      classNames? "\"flex gap-my gap\"" = some ["flex","gap-my","gap"] := by
  decide +kernel

end DesignCompiler.Styling
