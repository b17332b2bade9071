import DesignCompiler.Proofs.Naming.ComponentName

/-! Identifiers in camel case, as style objects and props have them: a small letter or an underscore,
then letters, digits and underscores. None of them is the name of a component. -/
namespace DesignCompiler.Naming
open Text

/-- A small letter or an underscore, then letters, digits and underscores. -/
def IsCamelName (s : String) : Prop :=
  ∃ c cs, s.toList = c :: cs ∧ (c.isLower = true ∨ c = '_') ∧ ∀ d ∈ cs, IsNameChar d

theorem isCamelName_identifierChars (cs : List Char) :
    IsCamelName (String.ofList (identifierChars .camel cs)) := by
  obtain ⟨c,rest,hall,⟨-,hname⟩ | ⟨hlower,hname⟩⟩ :=
    exists_identifierChars (j := .camel) (by decide) cs
  all_goals rw [hname]
  · exact ⟨'_',c :: rest,String.toList_ofList,.inr rfl,fun d h => .inl (hall d h)⟩
  · exact ⟨c,rest,String.toList_ofList,.inl hlower,
      fun d h => .inl (hall d (List.mem_cons_of_mem c h))⟩

lemma isCamelName_identifier (name : String) : IsCamelName (identifier .camel name) :=
  isCamelName_identifierChars name.toList

lemma isCamelName_propIdentifier (key : String) : IsCamelName (propIdentifier key) :=
  isCamelName_identifierChars _

/-- A name in camel case begins with no capital. -/
lemma IsCamelName.exists_cons {s : String} (h : IsCamelName s) :
    ∃ c cs, s.toList = c :: cs ∧ c.isUpper = false ∧ ∀ d ∈ c :: cs, IsNameChar d := by
  obtain ⟨c,cs,hs,hc,hcs⟩ := h
  refine ⟨c,cs,hs,?_,List.forall_mem_cons.mpr ⟨hc.imp_left isAlphanum_of_isLower,hcs⟩⟩
  obtain hc | rfl := hc
  · exact isUpper_of_isLower hc
  · decide

lemma IsCamelName.isNameChar {s : String} (h : IsCamelName s) : ∀ c ∈ s.toList, IsNameChar c := by
  obtain ⟨c,cs,hs,-,hchars⟩ := h.exists_cons
  exact hs ▸ hchars

end DesignCompiler.Naming
