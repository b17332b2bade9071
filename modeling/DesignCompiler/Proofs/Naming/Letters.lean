import DesignCompiler.Proofs.Naming.CamelCase

/-! The names that are made from those of layers and properties. Each is an identifier, and keeps the
letters and digits from which it is made, in order and up to case. -/
namespace DesignCompiler.Naming
open Text

/-- The letters and digits of a text, all of them small. -/
def letters (cs : List Char) : List Char := (cs.filter Char.isAlphanum).map Char.toLower

@[simp] lemma letters_nil : letters [] = [] := rfl

lemma letters_append (cs ds : List Char) : letters (cs ++ ds) = letters cs ++ letters ds := by
  simp [letters]

lemma letters_of_isAlphanum {cs : List Char} (h : ∀ c ∈ cs, c.isAlphanum = true) :
    letters cs = cs.map Char.toLower := by
  rw [letters, List.filter_eq_self.mpr h]

/-! ## Words -/

lemma flatten_consFirst (c : Char) (ws : List (List Char)) :
    (consFirst c ws).flatten = c :: ws.flatten := by
  cases ws <;> rfl

/-- Together the words of a text are its letters and digits. -/
theorem flatten_rawParts (cs : List Char) : (rawParts cs).flatten = cs.filter Char.isAlphanum := by
  induction cs using rawParts.induct with
  | case1 => rfl
  | case2 c hc => simp [rawParts, hc]
  | case3 c hc => simp [rawParts, hc]
  | case4 a b rest ha ih =>
    have ha' : ¬ a.isAlphanum = true := by simpa using ha
    rw [rawParts, if_pos ha, List.flatten_cons, ih, List.nil_append, List.filter_cons_of_neg ha']
  | case5 a b rest ha hb ih =>
    have ha' : a.isAlphanum = true := by simpa using ha
    rw [rawParts, if_neg ha, if_pos hb, List.flatten_cons, ih, List.singleton_append,
      List.filter_cons_of_pos ha']
  | case6 a b rest ha hb ih =>
    have ha' : a.isAlphanum = true := by simpa using ha
    rw [rawParts, if_neg ha, if_neg hb, flatten_consFirst, ih, List.filter_cons_of_pos ha']

lemma flatten_identifierParts (cs : List Char) :
    (identifierParts cs).flatten = cs.filter Char.isAlphanum := by
  rw [identifierParts, List.flatten_filter_not_isEmpty, flatten_rawParts]

lemma letters_lowerWord {w : List Char} (h : ∀ c ∈ w, c.isAlphanum = true) :
    letters (lowerWord w) = letters w := by
  rw [letters_of_isAlphanum (isAlphanum_of_mem_lowerWord h), letters_of_isAlphanum h, lowerWord,
    List.map_map]
  exact List.map_congr_left fun c _ => toLower_toLower c

lemma letters_capitalWord {w : List Char} (h : ∀ c ∈ w, c.isAlphanum = true) :
    letters (capitalWord w) = letters w := by
  cases w with
  | nil => rfl
  | cons c w =>
    obtain ⟨hc,hw⟩ := List.forall_mem_cons.mp h
    have hfirst : letters [c.toUpper] = letters [c] := by
      rw [letters_of_isAlphanum (by simpa using isAlphanum_toUpper hc),
        letters_of_isAlphanum (by simpa using hc)]
      exact congrArg (fun x => [x]) (toLower_toUpper hc)
    rw [capitalWord, ← List.singleton_append, letters_append, hfirst, letters_lowerWord hw,
      ← letters_append, List.singleton_append]

/-- Without marks between them, words that are joined keep their letters. -/
lemma letters_joinWords {j : Joining} (hj : j ≠ .kebab) {ws : List (List Char)}
    (h : ∀ w ∈ ws, ∀ c ∈ w, c.isAlphanum = true) :
    letters (joinWords j ws) = letters ws.flatten := by
  have hcapitals : ∀ {ws : List (List Char)}, (∀ w ∈ ws, ∀ c ∈ w, c.isAlphanum = true) →
      letters (ws.flatMap capitalWord) = letters ws.flatten := by
    intro ws h
    induction ws with
    | nil => rfl
    | cons w ws ih =>
      obtain ⟨hw,hws⟩ := List.forall_mem_cons.mp h
      rw [List.flatMap_cons, List.flatten_cons, letters_append, letters_append,
        letters_capitalWord hw, ih hws]
  cases j with
  | pascal => exact hcapitals h
  | camel =>
    cases ws with
    | nil => rfl
    | cons w ws =>
      obtain ⟨hw,hws⟩ := List.forall_mem_cons.mp h
      rw [joinWords, List.flatten_cons, letters_append, letters_append, letters_lowerWord hw,
        hcapitals hws]
  | kebab => contradiction

/-! ## Identifiers -/

lemma letters_joinWords_identifierParts {j : Joining} (hj : j ≠ .kebab) (cs : List Char) :
    letters (joinWords j (identifierParts cs)) = letters cs := by
  rw [letters_joinWords hj fun w hw => (of_mem_identifierParts hw).2, flatten_identifierParts]
  simp [letters]

/-- The letters of an identifier end in those of the text. -/
lemma letters_suffix_identifierChars {j : Joining} (hj : j ≠ .kebab) (cs : List Char) :
    letters cs <:+ letters (identifierChars j cs) := by
  have hletters := letters_joinWords_identifierParts hj cs
  unfold identifierChars
  split
  · next he =>
    rw [he] at hletters
    rw [← hletters]
    exact List.nil_suffix
  · next c rest he =>
    rw [he] at hletters
    split
    · rw [← List.singleton_append, letters_append, hletters]
      exact List.suffix_append _ _
    · exact hletters ▸ List.suffix_rfl

lemma letters_suffix_componentIdentifier (name : String) :
    letters name.toList <:+ letters (componentIdentifier name).toList := by
  have hletters : letters name.toList <:+ letters (identifierChars .pascal name.toList) :=
    letters_suffix_identifierChars (by decide) _
  unfold componentIdentifier
  split
  · next rest he =>
    -- the underscore, which is no letter, now stands after a word
    have hline : letters (identifierChars .pascal name.toList) = letters rest := by
      rw [he]
      rfl
    rw [hline] at hletters
    rw [String.toList_ofList, letters_append]
    exact hletters.trans (List.suffix_append _ _)
  · rwa [String.toList_ofList]

lemma letters_suffix_propIdentifier (key : String) :
    letters (key.toList.takeWhile (· != '#')) <:+ letters (propIdentifier key).toList := by
  rw [propIdentifier, String.toList_ofList]
  exact letters_suffix_identifierChars (by decide) _

/-- Whatever a layer or a property is called, the names made from it are identifiers that end in its
letters and digits, up to case: that of a component begins with a capital, and that of a prop with a
small letter or an underscore. -/
theorem derived_names_are_identifiers (name : String) :
    IsComponentName (componentIdentifier name) ∧ IsCamelName (propIdentifier name) ∧
      letters name.toList <:+ letters (componentIdentifier name).toList ∧
      letters (name.toList.takeWhile (· != '#')) <:+ letters (propIdentifier name).toList :=
  ⟨isComponentName_componentIdentifier name,isCamelName_propIdentifier name,
    letters_suffix_componentIdentifier name,letters_suffix_propIdentifier name⟩

/-- A name and a key that begin with digits, and a key without letters. -/
example : componentIdentifier "404 page" = "Component_404Page" ∧
    propIdentifier "2 Columns#3:4" = "_2Columns" ∧ propIdentifier "***" = "unnamed" := by
  decide +kernel

end DesignCompiler.Naming
