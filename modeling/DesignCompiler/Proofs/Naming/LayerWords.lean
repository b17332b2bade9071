import DesignCompiler.Naming.Identifier
import DesignCompiler.Naming.Words
import DesignCompiler.Proofs.Text.Ascii
import DesignCompiler.Proofs.Text.Lines

/-! The words of a layer name are told apart in whatever style it is written: with characters
between the words, with a capital at the beginning of each, or in a mixture of both. -/
namespace DesignCompiler.Naming
open Text

/-- Small ASCII letters and digits. -/
def isSmall (c : Char) : Bool := c.isLower || c.isDigit

/-- A small letter, and at least one small letter or digit after it. -/
def IsLayerWord (w : List Char) : Prop :=
  ∃ c d cs, w = c :: d :: cs ∧ c.isLower = true ∧ ∀ x ∈ d :: cs, isSmall x = true

/-- The characters that a designer puts between words. -/
def separators : List Char := [' ','-','_','/']

/-- One or more separators, alike or not. -/
def IsGap (s : String) : Prop := s ≠ "" ∧ ∀ c ∈ s.toList, c ∈ separators

/-! ## One character -/

section
variable {c : Char} {current cs : List Char} {after : Bool}

lemma toNat_lt_of_isSmall (h : isSmall c = true) : c.toNat < 128 := by
  refine toNat_lt_of_isAlphanum ?_
  rw [isSmall, Bool.or_eq_true] at h
  change ((c.isUpper || c.isLower) || c.isDigit) = true
  obtain h | h := h <;> simp [h]

/-- A small character makes the word under way longer. -/
lemma wordsFrom_small (h : isSmall c = true) :
    wordsFrom current after (c :: cs) = wordsFrom (current ++ [c]) true cs := by
  have hchar : isWordChar c = true ∧ isUpper c = false ∧ (isLower c || c.isDigit) = true ∧
      lowerChar c = [c] :=
    forall_ascii (P := fun c => isSmall c = true → isWordChar c = true ∧ isUpper c = false ∧
      (isLower c || c.isDigit) = true ∧ lowerChar c = [c]) (by decide +kernel)
      (toNat_lt_of_isSmall h) h
  obtain ⟨hword,hupper,hlower,hself⟩ := hchar
  simp [wordsFrom, hword, hupper, hlower, hself]

/-- A capital begins a word, also where a word has just ended in a small character. -/
lemma wordsFrom_capital (h : c.isLower = true) (hafter : current ≠ [] → after = true) :
    wordsFrom current after (c.toUpper :: cs) =
      (if current.isEmpty then [] else [current]) ++ wordsFrom [c] false cs := by
  have hchar : isWordChar c.toUpper = true ∧ isUpper c.toUpper = true ∧
      (isLower c.toUpper || c.toUpper.isDigit) = false ∧ lowerChar c.toUpper = [c] :=
    forall_ascii (P := fun c => c.isLower = true → isWordChar c.toUpper = true ∧
      isUpper c.toUpper = true ∧ (isLower c.toUpper || c.toUpper.isDigit) = false ∧
      lowerChar c.toUpper = [c]) (by decide +kernel)
      (toNat_lt_of_isSmall (by rw [isSmall, h]; rfl)) h
  obtain ⟨hword,hupper,hlower,hself⟩ := hchar
  cases current with
  | nil => simp [wordsFrom, hword, hupper, hlower, hself]
  | cons d ds => simp [wordsFrom, hword, hupper, hlower, hself, hafter (List.cons_ne_nil d ds)]

/-- A separator ends the word under way, if there is one. -/
lemma wordsFrom_separator (h : c ∈ separators) :
    wordsFrom current after (c :: cs) =
      (if current.isEmpty then [] else [current]) ++ wordsFrom [] false cs := by
  have hword : ∀ c ∈ separators, isWordChar c = false := by decide +kernel
  rw [wordsFrom, hword c h]
  cases current <;> rfl

end

/-! ## One word -/

section
variable {w cs current : List Char} {after : Bool}

lemma wordsFrom_smalls (h : ∀ x ∈ w, isSmall x = true) (hne : w ≠ []) :
    wordsFrom current after (w ++ cs) = wordsFrom (current ++ w) true cs := by
  induction w generalizing current after with
  | nil => contradiction
  | cons c w ih =>
    obtain ⟨hc,hw⟩ := List.forall_mem_cons.mp h
    rw [List.cons_append, wordsFrom_small hc]
    cases w with
    | nil => rfl
    | cons d w => rw [ih hw (List.cons_ne_nil d w), List.append_assoc, List.singleton_append]

lemma IsLayerWord.forall_isSmall (hw : IsLayerWord w) : ∀ x ∈ w, isSmall x = true := by
  obtain ⟨c,d,ds,rfl,hc,hds⟩ := hw
  exact List.forall_mem_cons.mpr ⟨by rw [isSmall, hc]; rfl,hds⟩

lemma IsLayerWord.ne_nil (hw : IsLayerWord w) : w ≠ [] := by
  obtain ⟨c,d,ds,rfl,-⟩ := hw
  exact List.cons_ne_nil _ _

lemma IsLayerWord.lowerWord_eq (hw : IsLayerWord w) : lowerWord w = w := by
  refine (List.map_congr_left fun c hc => ?_).trans (List.map_id w)
  have hsmall := hw.forall_isSmall c hc
  exact forall_ascii (P := fun c => isSmall c = true → c.toLower = c) (by decide +kernel)
    (toNat_lt_of_isSmall hsmall) hsmall

/-- A word with a capital is one of its own. It has a small character after the capital, so that the
next capital begins another word. -/
lemma IsLayerWord.wordsFrom_capitalWord (hw : IsLayerWord w)
    (hafter : current ≠ [] → after = true) :
    wordsFrom current after (capitalWord w ++ cs) =
      (if current.isEmpty then [] else [current]) ++ wordsFrom w true cs := by
  have hsame := hw.lowerWord_eq
  obtain ⟨c,d,ds,rfl,hc,hds⟩ := hw
  have htail : lowerWord (d :: ds) = d :: ds := (List.cons.inj hsame).2
  rw [capitalWord, htail, List.cons_append, wordsFrom_capital hc hafter,
    wordsFrom_smalls hds (List.cons_ne_nil d ds)]
  rfl

end

/-! ## Names -/

/-- A text that spells some words, in any mixture of styles; the flag tells whether a word stands
directly before it. A word in small letters needs something that sets it off from the word before
it. -/
inductive Spells : Bool → List (List Char) → List Char → Prop
  | done (b : Bool) : Spells b [] []
  | gap {b : Bool} {c : Char} {ws : List (List Char)} {cs : List Char} : c ∈ separators →
      Spells false ws cs → Spells b ws (c :: cs)
  | small {w : List Char} {ws : List (List Char)} {cs : List Char} : IsLayerWord w →
      Spells true ws cs → Spells false (w :: ws) (w ++ cs)
  | capital {b : Bool} {w : List Char} {ws : List (List Char)} {cs : List Char} : IsLayerWord w →
      Spells true ws cs → Spells b (w :: ws) (capitalWord w ++ cs)

section
variable {b : Bool} {ws : List (List Char)} {cs : List Char}

/-- What spells some words is read as these, after the word under way. -/
theorem Spells.wordsFrom_eq (h : Spells b ws cs) {current : List Char}
    (hcurrent : current = [] ↔ b = false) :
    wordsFrom current b cs = (if current.isEmpty then [] else [current]) ++ ws := by
  induction h generalizing current with
  | done => rw [wordsFrom, List.append_nil]
  | gap hc _ ih =>
    rw [wordsFrom_separator hc, ih (by simp)]
    rfl
  | @small w ws cs hw _ ih =>
    obtain rfl := hcurrent.mpr rfl
    rw [wordsFrom_smalls hw.forall_isSmall hw.ne_nil, ih (by simp [hw.ne_nil])]
    simp [hw.ne_nil]
  | @capital b w ws cs hw _ ih =>
    have hafter : current ≠ [] → b = true := fun hne => Bool.of_not_eq_false (mt hcurrent.mpr hne)
    rw [hw.wordsFrom_capitalWord hafter, ih (by simp [hw.ne_nil])]
    simp [hw.ne_nil]

/-- A gap ahead of a text that spells some words changes nothing about them. -/
lemma Spells.afterGap (h : Spells false ws cs) {gap : List Char} (hne : gap ≠ [])
    (hgap : ∀ c ∈ gap, c ∈ separators) : Spells b ws (gap ++ cs) := by
  induction gap generalizing b with
  | nil => contradiction
  | cons c gap ih =>
    obtain ⟨hc,hgap⟩ := List.forall_mem_cons.mp hgap
    refine .gap hc ?_
    cases gap with
    | nil => exact h
    | cons d gap => exact ih (List.cons_ne_nil d gap) hgap

lemma spells_capitals (hws : ∀ w ∈ ws, IsLayerWord w) : Spells b ws (ws.flatMap capitalWord) := by
  induction ws generalizing b with
  | nil => exact .done b
  | cons w ws ih =>
    obtain ⟨hw,hws⟩ := List.forall_mem_cons.mp hws
    exact .capital hw (ih hws)

lemma spells_joinWords_camel (hws : ∀ w ∈ ws, IsLayerWord w) :
    Spells false ws (joinWords .camel ws) := by
  cases ws with
  | nil => exact .done false
  | cons w ws =>
    obtain ⟨hw,hws⟩ := List.forall_mem_cons.mp hws
    rw [joinWords, hw.lowerWord_eq]
    exact .small hw (spells_capitals hws)

end

/-- Words that are set off from each other by gaps. -/
def separated (first : String) (rest : List (String × String)) : String :=
  first ++ String.join (rest.map fun (gap,word) => gap ++ word)

lemma spells_separated {first : String} {rest : List (String × String)}
    (hfirst : IsLayerWord first.toList) (hrest : ∀ e ∈ rest, IsGap e.1 ∧ IsLayerWord e.2.toList) :
    Spells false (first.toList :: rest.map (·.2.toList)) (separated first rest).toList := by
  have hafter : Spells true (rest.map (·.2.toList))
      (String.join (rest.map fun e => e.1 ++ e.2)).toList := by
    induction rest with
    | nil => exact .done true
    | cons e rest ih =>
      obtain ⟨⟨⟨hne,hgap⟩,hw⟩,hrest⟩ := List.forall_mem_cons.mp hrest
      rw [List.map_cons, List.map_cons, String.join_cons, String.toList_append,
        String.toList_append, List.append_assoc]
      refine Spells.afterGap (.small hw (ih hrest)) ?_ hgap
      rwa [Ne, String.toList_eq_nil_iff]
  rw [separated, String.toList_append]
  exact .small hfirst hafter

lemma nameWords_of_spells {s : String} {ws : List String}
    (h : Spells false (ws.map String.toList) s.toList) : nameWords s = ws := by
  rw [nameWords, h.wordsFrom_eq (by simp), List.isEmpty_nil, if_pos rfl, List.nil_append,
    List.map_map]
  exact (List.map_congr_left fun _ _ => String.ofList_toList).trans (List.map_id ws)

/-- The words of a layer name do not depend on the style in which it is written: the same are read
when gaps stand between them, in Pascal case and in camel case. -/
theorem nameWords_in_every_style {ws : List String} (hws : ∀ w ∈ ws, IsLayerWord w.toList) :
    (∀ first rest, ws = first :: rest.map (·.2) → (∀ e ∈ rest, IsGap e.1) →
      nameWords (separated first rest) = ws) ∧
    nameWords (String.ofList (joinWords .pascal (ws.map String.toList))) = ws ∧
    nameWords (String.ofList (joinWords .camel (ws.map String.toList))) = ws := by
  have hchars : ∀ w ∈ ws.map String.toList, IsLayerWord w := List.forall_mem_map.mpr hws
  refine ⟨?_,nameWords_of_spells ?_,nameWords_of_spells ?_⟩
  · rintro first rest rfl hgaps
    obtain ⟨hfirst,hrest⟩ := List.forall_mem_cons.mp hws
    refine nameWords_of_spells ?_
    rw [List.map_cons, List.map_map]
    exact spells_separated hfirst fun e he =>
      ⟨hgaps e he,hrest e.2 (List.mem_map_of_mem he)⟩
  · rw [String.toList_ofList]
    exact spells_capitals hchars
  · rw [String.toList_ofList]
    exact spells_joinWords_camel hchars

/-- A name of three words, of which one ends in a digit. -/
theorem nameWords_in_every_style_heading :
    nameWords "page/h1 -_title" = ["page","h1","title"] ∧
      nameWords "PageH1Title" = ["page","h1","title"] ∧
      nameWords "pageH1Title" = ["page","h1","title"] := by
  have hword : ∀ w ∈ ["page","h1","title"], IsLayerWord w.toList := by
    have hpage : IsLayerWord "page".toList := ⟨'p','a',['g','e'],rfl,by decide,by decide⟩
    have hh1 : IsLayerWord "h1".toList := ⟨'h','1',[],rfl,by decide,by decide⟩
    have htitle : IsLayerWord "title".toList :=
      ⟨'t','i',['t','l','e'],rfl,by decide,by decide⟩
    simp only [List.forall_mem_cons]
    exact ⟨hpage,hh1,htitle,List.forall_mem_nil _⟩
  obtain ⟨hgaps,hpascal,hcamel⟩ := nameWords_in_every_style hword
  exact ⟨hgaps "page" [("/","h1"),(" -_","title")] rfl (by simp [IsGap, separators]),hpascal,hcamel⟩

end DesignCompiler.Naming
