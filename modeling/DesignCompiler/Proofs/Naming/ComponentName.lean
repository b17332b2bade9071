import DesignCompiler.Proofs.Naming.Fresh
import DesignCompiler.Proofs.Naming.Identifier
import DesignCompiler.Proofs.Text.Ascii

/-! How identifiers begin, and names of components: a capital, then letters, digits and underscores,
whatever the layer is called. A name that is numbered to be fresh is one as well. -/
namespace DesignCompiler.Naming
open Text

/-- A character of an identifier after the first one. -/
def IsNameChar (c : Char) : Prop := c.isAlphanum = true ∨ c = '_'

instance (c : Char) : Decidable (IsNameChar c) := inferInstanceAs (Decidable (_ ∨ _))

/-- A capital, then letters, digits and underscores. -/
def IsComponentName (s : String) : Prop :=
  ∃ c cs, s.toList = c :: cs ∧ c.isUpper = true ∧ ∀ d ∈ cs, IsNameChar d

lemma isAlphanum_of_mem_lowerWord {w : List Char} (h : ∀ c ∈ w, c.isAlphanum = true) :
    ∀ c ∈ lowerWord w, c.isAlphanum = true :=
  List.forall_mem_map.mpr fun c hc => isAlphanum_toLower (h c hc)

lemma isAlphanum_of_mem_capitalWord {w : List Char} (h : ∀ c ∈ w, c.isAlphanum = true) :
    ∀ c ∈ capitalWord w, c.isAlphanum = true := by
  cases w with
  | nil => exact List.forall_mem_nil _
  | cons c w =>
    obtain ⟨hc,hw⟩ := List.forall_mem_cons.mp h
    exact List.forall_mem_cons.mpr ⟨isAlphanum_toUpper hc,isAlphanum_of_mem_lowerWord hw⟩

/-- The words of a text are not empty and hold letters and digits only. -/
lemma of_mem_identifierParts {cs w : List Char} (hw : w ∈ identifierParts cs) :
    w ≠ [] ∧ ∀ c ∈ w, c.isAlphanum = true := by
  obtain ⟨hraw,hne⟩ := List.mem_filter.mp hw
  exact ⟨by simpa using hne,isAlphanum_of_mem_rawParts hraw⟩

/-- The letters with which a joining begins: capitals if every word begins with one. -/
def Joining.Begins : Joining → Char → Prop
  | .pascal, c => c.isUpper = true
  | .camel, c | .kebab, c => c.isLower = true

/-- Words that are joined without marks are a letter for the beginning or a digit, then letters and
digits. -/
lemma exists_joinWords {j : Joining} (hj : j ≠ .kebab) {w : List Char} {ws : List (List Char)}
    (hne : w ≠ []) (h : ∀ v ∈ w :: ws, ∀ c ∈ v, c.isAlphanum = true) :
    ∃ c cs, joinWords j (w :: ws) = c :: cs ∧ (c.isDigit = true ∨ j.Begins c) ∧
      ∀ d ∈ c :: cs, d.isAlphanum = true := by
  obtain ⟨hw,hws⟩ := List.forall_mem_cons.mp h
  have hrest : ∀ d ∈ ws.flatMap capitalWord, d.isAlphanum = true := by
    intro d hd
    obtain ⟨v,hv,hd⟩ := List.mem_flatMap.mp hd
    exact isAlphanum_of_mem_capitalWord (hws v hv) d hd
  obtain ⟨c,cs,rfl⟩ := List.exists_cons_of_ne_nil hne
  have hc := hw c List.mem_cons_self
  cases j with
  | pascal =>
    have hall := List.forall_mem_append.mpr ⟨isAlphanum_of_mem_capitalWord hw,hrest⟩
    refine ⟨c.toUpper,lowerWord cs ++ ws.flatMap capitalWord,rfl,?_,hall⟩
    cases hd : c.toUpper.isDigit with
    | true => exact .inl rfl
    | false => exact .inr (isUpper_toUpper hc hd)
  | camel =>
    have hall := List.forall_mem_append.mpr ⟨isAlphanum_of_mem_lowerWord hw,hrest⟩
    refine ⟨c.toLower,lowerWord cs ++ ws.flatMap capitalWord,rfl,?_,hall⟩
    cases hd : c.toLower.isDigit with
    | true => exact .inl rfl
    | false => exact .inr (isLower_toLower hc hd)
  | kebab => contradiction

/-- An identifier without marks between its words is a letter for the beginning, or an underscore and
a digit, then letters and digits. -/
theorem exists_identifierChars {j : Joining} (hj : j ≠ .kebab) (cs : List Char) :
    ∃ c rest, (∀ d ∈ c :: rest, d.isAlphanum = true) ∧
      (c.isDigit = true ∧ identifierChars j cs = '_' :: c :: rest ∨
        j.Begins c ∧ identifierChars j cs = c :: rest) := by
  have hparts : ∀ w ∈ identifierParts cs, w ≠ [] ∧ ∀ c ∈ w, c.isAlphanum = true :=
    fun w hw => of_mem_identifierParts hw
  unfold identifierChars
  cases hp : identifierParts cs with
  | nil =>
    cases j with
    | pascal => exact ⟨'U',"nnamed".toList,by decide,.inr ⟨rfl,by decide⟩⟩
    | camel => exact ⟨'u',"nnamed".toList,by decide,.inr ⟨rfl,by decide⟩⟩
    | kebab => contradiction
  | cons w ws =>
    rw [hp] at hparts
    obtain ⟨c,rest,hjoin,hfirst,hall⟩ := exists_joinWords hj (hparts w List.mem_cons_self).1
      fun v hv => (hparts v hv).2
    rw [hjoin]
    refine ⟨c,rest,hall,?_⟩
    dsimp only
    split
    · next hd => exact .inl ⟨hd,rfl⟩
    · next hd => exact .inr ⟨hfirst.resolve_left hd,rfl⟩

theorem isComponentName_componentIdentifier (name : String) :
    IsComponentName (componentIdentifier name) := by
  obtain ⟨c,rest,hall,⟨-,hname⟩ | ⟨hupper,hname⟩⟩ :=
    exists_identifierChars (j := .pascal) (by decide) name.toList
  all_goals
    unfold componentIdentifier
    rw [hname]
  · -- a digit does not begin a name, so a word is put in front of it
    refine ⟨'C',"omponent_".toList ++ c :: rest,by simp,by decide,?_⟩
    exact List.forall_mem_append.mpr ⟨by decide,fun d h => .inl (hall d h)⟩
  · have hline : c ≠ '_' := by
      rintro rfl
      contradiction
    split
    · next he => exact absurd (List.cons.inj he).1 hline
    · exact ⟨c,rest,String.toList_ofList,hupper,fun d h => .inl (hall d (List.mem_cons_of_mem c h))⟩

lemma isNameChar_of_isDigit {c : Char} (h : c.isDigit = true) : IsNameChar c :=
  .inl (by rw [Char.isAlphanum, h, Bool.or_true])

theorem isComponentName_fresh {wanted : String} (h : IsComponentName wanted)
    (used : List String) : IsComponentName (fresh used wanted) := by
  obtain ⟨number,hfresh,hdigits⟩ := exists_fresh_eq_append used wanted
  obtain ⟨c,cs,hw,hc,hcs⟩ := h
  refine ⟨c,cs ++ number.toList,?_,hc,?_⟩
  · rw [hfresh, String.toList_append, hw, List.cons_append]
  · exact List.forall_mem_append.mpr ⟨hcs,fun d hd => isNameChar_of_isDigit (hdigits d hd)⟩

section
variable {s : String}

lemma IsComponentName.isNameChar (h : IsComponentName s) : ∀ c ∈ s.toList, IsNameChar c := by
  obtain ⟨a,as,hs,ha,has⟩ := h
  rw [hs]
  refine List.forall_mem_cons.mpr ⟨.inl ?_,has⟩
  change ((a.isUpper || a.isLower) || a.isDigit) = true
  rw [ha, Bool.true_or, Bool.true_or]

/-- A component name holds no character but letters, digits and underscores. -/
lemma IsComponentName.notMem (h : IsComponentName s) {c : Char} (hc : c.isAlphanum = false)
    (hline : c ≠ '_') : c ∉ s.toList := by
  obtain ⟨a,as,hs,ha,has⟩ := h
  rw [hs, List.mem_cons, not_or]
  constructor
  · rintro rfl
    change ((c.isUpper || c.isLower) || c.isDigit) = false at hc
    rw [ha] at hc
    contradiction
  · intro hmem
    obtain hd | hd := has c hmem
    · rw [hd] at hc
      contradiction
    · exact hline hd

/-- What begins with a component name begins with a capital. -/
lemma IsComponentName.append_ne (h : IsComponentName s) {t : String} {c : Char} {cs : List Char}
    (ht : t.toList = c :: cs) (hc : c.isUpper = false) (e : String) : s ++ e ≠ t := by
  obtain ⟨a,as,hs,ha,-⟩ := h
  rintro rfl
  rw [String.toList_append, hs] at ht
  cases ht
  rw [ha] at hc
  contradiction

end

end DesignCompiler.Naming
