import DesignCompiler.Markup.Escape
import DesignCompiler.Proofs.Text.Pieces
import Mathlib.Tactic.SplitIfs
import Mathlib.Tactic.Tauto

/-! Script strings in single quotes are read back. A carriage return is written as it stands, and no
such string holds one; every other text is read as itself. -/
namespace DesignCompiler.Markup

/-! ## Reading -/

/-- A character that stands for itself between single quotes. -/
def isQuotable (c : Char) : Bool := c != '\'' && c != '\\' && c != '\n' && c != '\r'

/-- The character for which a backslash with a character after it stands. -/
def escaped? : Char → Option Char
  | '\\' => some '\\'
  | '\'' => some '\''
  | 'n' => some '\n'
  | _ => none

/-- The rest of a script string after its opening quote: the text up to the closing quote, and what
comes after that. There is none if the text ends, a line breaks or an unknown escape stands ahead of
the closing quote. -/
def scriptRest? : List Char → Option (List Char × List Char)
  | [] => none
  | '\'' :: rest => some ([],rest)
  | '\\' :: e :: rest => (escaped? e).bind fun c => (scriptRest? rest).map fun r => (c :: r.1,r.2)
  | c :: rest =>
    if isQuotable c then (scriptRest? rest).map fun r => (c :: r.1,r.2) else none

/-- The text of a literal, which is a script string and nothing else. -/
def scriptText? (s : String) : Option String :=
  match s.toList with
  | '\'' :: cs =>
    match scriptRest? cs with
    | some (text,[]) => some (String.ofList text)
    | _ => none
  | _ => none

/-! ## Reading what is written -/

lemma isQuotable_iff {c : Char} :
    isQuotable c = true ↔ c ≠ '\'' ∧ c ≠ '\\' ∧ c ≠ '\n' ∧ c ≠ '\r' := by
  simp [isQuotable, and_assoc]

lemma scriptRest?_cons {c : Char} (h : isQuotable c = true) (rest : List Char) :
    scriptRest? (c :: rest) = (scriptRest? rest).map fun r => (c :: r.1,r.2) := by
  rw [scriptRest?.eq_def]
  split <;> simp_all [isQuotable]

/-- The characters for one character are read as that character, unless it is a carriage return. -/
lemma scriptRest?_scriptChar (c : Char) (rest : List Char) :
    scriptRest? (scriptChar c ++ rest) =
      if c = '\r' then none else (scriptRest? rest).map fun r => (c :: r.1,r.2) := by
  by_cases hc : isQuotable c = true
  · obtain ⟨hquote,hbackslash,hfeed,hreturn⟩ := isQuotable_iff.mp hc
    have hself : scriptChar c = [c] := by simp [scriptChar, hquote, hbackslash, hfeed]
    rw [hself, List.singleton_append, scriptRest?_cons hc, if_neg hreturn]
  · have hmarks : c = '\'' ∨ c = '\\' ∨ c = '\n' ∨ c = '\r' := by
      rw [isQuotable_iff] at hc
      tauto
    obtain rfl | rfl | rfl | rfl := hmarks
    all_goals simp [scriptChar, scriptRest?, escaped?, isQuotable]

/-- A text is read from its script string, whatever comes after it, unless it has a carriage
return. -/
lemma scriptRest?_flatMap_scriptChar (cs rest : List Char) :
    scriptRest? (cs.flatMap scriptChar ++ '\'' :: rest) =
      if '\r' ∈ cs then none else some (cs,rest) := by
  induction cs with
  | nil => rfl
  | cons c cs ih =>
    rw [List.flatMap_cons, List.append_assoc, scriptRest?_scriptChar, ih]
    by_cases hc : c = '\r'
    · rw [if_pos hc, if_pos (hc ▸ List.mem_cons_self)]
    · by_cases hcs : '\r' ∈ cs <;> simp [hc, hcs, Ne.symm hc]

theorem scriptText?_scriptString (s : String) :
    scriptText? (scriptString s) = if '\r' ∈ s.toList then none else some s := by
  have hread := scriptRest?_flatMap_scriptChar s.toList []
  simp only [scriptText?, scriptString, String.toList_ofList, scriptStringChars, List.cons_append,
    hread]
  split_ifs <;> simp

/-! ## Literals of different texts -/

/-- Different texts have different literals. -/
theorem scriptString_injective : Function.Injective scriptString := by
  have hfree : ∀ a b, scriptChar a <+: scriptChar b → a = b := by
    intro a b h
    unfold scriptChar at h
    split_ifs at h <;> simp_all
  have hne : ∀ a, scriptChar a ≠ [] := by
    intro a
    unfold scriptChar
    split_ifs <;> simp
  intro s t h
  have hchars : scriptStringChars s.toList = scriptStringChars t.toList :=
    String.ofList_injective h
  refine String.toList_injective (Text.flatMap_injective hne hfree ?_)
  exact List.append_cancel_right (List.cons.inj hchars).2

/-! ## Texts that are written without escapes -/

/-- Where a text without quotes stands ahead of a quote as it is, what is read is not longer than
it, and as long only if nothing in it is escaped and the quote ends the string. Otherwise the quote
is escaped and is read in place of a character of the text. -/
lemma scriptRest?_raw {cs rest rest' text : List Char} (hcs : '\'' ∉ cs)
    (h : scriptRest? (cs ++ '\'' :: rest) = some (text,rest')) :
    (text.length ≤ cs.length ∧
        (text.length = cs.length → (∀ c ∈ cs, isQuotable c = true) ∧ rest' = rest)) ∨
      ∃ i < cs.length, text[i]? = some '\'' := by
  induction cs using scriptRest?.induct generalizing text with
  | case1 =>
    cases h
    exact .inl ⟨le_rfl,fun _ => ⟨List.forall_mem_nil _,rfl⟩⟩
  | case2 cs => exact absurd List.mem_cons_self hcs
  | case3 e cs ih =>
    have hcs' : '\'' ∉ cs := fun hmem => hcs (List.mem_cons_of_mem _ (List.mem_cons_of_mem _ hmem))
    rw [List.cons_append, List.cons_append, scriptRest?] at h
    obtain ⟨c,-,h⟩ := Option.bind_eq_some_iff.mp h
    obtain ⟨⟨tail,rest''⟩,hread,he⟩ := Option.map_eq_some_iff.mp h
    cases he
    -- an escape is two characters for one, so that the text falls behind
    obtain ⟨hle,-⟩ | ⟨i,hi,hquote⟩ := ih hcs' hread
    · refine .inl ⟨?_,fun heq => ?_⟩
      all_goals
        simp only [List.length_cons] at *
        omega
    · refine .inr ⟨i + 1,?_,hquote⟩
      simp only [List.length_cons]
      omega
  | case4 c cs _ _ hc ih =>
    have hcs' : '\'' ∉ cs := fun hmem => hcs (List.mem_cons_of_mem _ hmem)
    rw [List.cons_append, scriptRest?_cons hc] at h
    obtain ⟨⟨tail,rest''⟩,hread,he⟩ := Option.map_eq_some_iff.mp h
    cases he
    obtain ⟨hle,hself⟩ | ⟨i,hi,hquote⟩ := ih hcs' hread
    · refine .inl ⟨Nat.succ_le_succ hle,fun heq => ?_⟩
      obtain ⟨hall,hrest⟩ := hself (Nat.succ.inj heq)
      exact ⟨List.forall_mem_cons.mpr ⟨hc,hall⟩,hrest⟩
    · exact .inr ⟨i + 1,Nat.succ_lt_succ hi,hquote⟩
  | case5 c cs hquote hescape hc =>
    -- a line break ends the reading, and a backslash at the end escapes the quote
    have hmarks := mt isQuotable_iff.mpr hc
    have hc' : c = '\\' ∨ c = '\n' ∨ c = '\r' := by tauto
    obtain rfl | rfl | rfl := hc'
    · cases cs with
      | cons e cs => exact (hescape e cs rfl rfl).elim
      | nil =>
        rw [List.cons_append, List.nil_append, scriptRest?] at h
        obtain ⟨⟨tail,rest''⟩,-,he⟩ := Option.map_eq_some_iff.mp h
        cases he
        exact .inr ⟨0,Nat.one_pos,rfl⟩
    · simp [scriptRest?, isQuotable] at h
    · simp [scriptRest?, isQuotable] at h

/-- A text that stands between quotes as it is and is read as itself needs no escapes, and the
second quote ends the string. -/
theorem isQuotable_of_scriptRest? {cs rest rest' : List Char}
    (h : scriptRest? (cs ++ '\'' :: rest) = some (cs,rest')) :
    (∀ c ∈ cs, isQuotable c = true) ∧ rest' = rest := by
  by_cases hquote : '\'' ∈ cs
  · -- what is read is too short, or it has a quote ahead of the first one of the text
    obtain ⟨as,bs,rfl,has⟩ := List.eq_append_cons_of_mem hquote
    rw [List.append_assoc, List.cons_append] at h
    obtain ⟨hle,-⟩ | ⟨i,hi,hread⟩ := scriptRest?_raw has h
    · rw [List.length_append, List.length_cons] at hle
      omega
    · rw [List.getElem?_append_left hi] at hread
      exact absurd (List.mem_of_getElem? hread) has
  · obtain ⟨-,hself⟩ | ⟨i,-,hread⟩ := scriptRest?_raw hquote h
    · exact hself rfl
    · exact absurd (List.mem_of_getElem? hread) hquote

/-- A text that needs no escapes is read as itself. -/
lemma scriptRest?_of_isQuotable {cs : List Char} (h : ∀ c ∈ cs, isQuotable c = true)
    (rest : List Char) : scriptRest? (cs ++ '\'' :: rest) = some (cs,rest) := by
  induction cs with
  | nil => rfl
  | cons c cs ih =>
    obtain ⟨hc,hcs⟩ := List.forall_mem_cons.mp h
    rw [List.cons_append, scriptRest?_cons hc, ih hcs]
    rfl

end DesignCompiler.Markup
