import DesignCompiler.Proofs.Naming.CamelCase
import DesignCompiler.Proofs.Styling.Styler

/-! The names of style definitions, whatever the elements are called. A styled component begins with
a mark, and a style object ends in one before its number and begins with no capital. -/
namespace DesignCompiler.Styling
open Naming

/-- A name that a scheme can give to a definition. -/
structure DefinitionName (b : Backend) (name : String) : Prop where
  chars : ∀ c ∈ name.toList, IsNameChar c
  mark : b = .styledComponents ∨ b = .emotion → 'S' ∈ name.toList
  first : b = .emotion → ∃ c cs, name.toList = c :: cs ∧ c.isUpper = false

lemma definitionName_wantedName (b : Backend) (h : ElementHead) :
    DefinitionName b (wantedName b h) := by
  obtain ⟨c,cs,hcamel,hc,hcs⟩ := (isCamelName_identifier h.name).exists_cons
  cases b with
  | styledComponents =>
    refine ⟨?_,?_,fun hb => by contradiction⟩
    · rw [wantedName, String.toList_append]
      exact List.forall_mem_append.mpr
        ⟨by decide,
          (isComponentName_componentIdentifier h.name).isNameChar⟩
    · intro _
      rw [wantedName, String.toList_append]
      exact List.mem_append_left _ (by decide)
  | emotion =>
    refine ⟨?_,?_,fun _ => ⟨c,cs ++ "Styles".toList,?_,hc⟩⟩
    · rw [wantedName, String.toList_append, hcamel]
      exact List.forall_mem_append.mpr ⟨hcs,by decide⟩
    · intro _
      rw [wantedName, String.toList_append]
      exact List.mem_append_right _ (by decide)
    · rw [wantedName, String.toList_append, hcamel, List.cons_append]
  | cssModules | tailwind =>
    refine ⟨?_,fun hb => by simp at hb,fun hb => by contradiction⟩
    rw [wantedName, hcamel]
    exact hcs

lemma DefinitionName.fresh {b : Backend} {wanted : String} (h : DefinitionName b wanted)
    (used : List String) : DefinitionName b (fresh used wanted) := by
  obtain ⟨number,hfresh,hdigits⟩ := exists_fresh_eq_append used wanted
  rw [hfresh]
  refine ⟨?_,fun hb => ?_,fun hb => ?_⟩
  · rw [String.toList_append]
    exact List.forall_mem_append.mpr ⟨h.chars,fun c hc => isNameChar_of_isDigit (hdigits c hc)⟩
  · rw [String.toList_append]
    exact List.mem_append_left _ (h.mark hb)
  · obtain ⟨c,cs,hname,hc⟩ := h.first hb
    exact ⟨c,cs ++ number.toList,by rw [String.toList_append, hname, List.cons_append],hc⟩

section
variable {s : Scheme} {p : Progress} {h : ElementHead} {hs : List ElementHead} {u : StyleUse}
  {e : StyleDefinition}

/-- All names that a collector has given are names of definitions. -/
def StyleCollector.NamesDefinitions (b : Backend) (c : StyleCollector) : Prop :=
  ∀ name ∈ c.assigned.map (·.2), DefinitionName b name

lemma backend_of_definition? {b : Backend} {name source : String}
    (he : (useOf b name source).definition? = some e) :
    (b = .styledComponents ∨ b = .emotion) ∧ e.name = name := by
  cases b <;> cases he
  · exact ⟨.inl rfl,rfl⟩
  · exact ⟨.inr rfl,rfl⟩

/-- Styling an element gives it a definition with a proper name, if it gives it one. -/
lemma definitionName_styleElement (hp : p.collector.NamesDefinitions s.backend) :
    (styleElement s p h).1.collector.NamesDefinitions s.backend ∧
      ∀ e ∈ (styleElement s p h).2.definition?,
        (s.backend = .styledComponents ∨ s.backend = .emotion) ∧ DefinitionName s.backend e.name := by
  by_cases hb : s.backend = .tailwind
  · simp only [styleElement, hb, styleByClasses]
    refine ⟨hb ▸ hp,?_⟩
    split <;> exact fun e he => absurd he (Option.not_mem_none e)
  · rw [styleElement_of_ne_tailwind hb]
    cases hd : s.declares h with
    | false =>
      obtain ⟨hcollector,huse⟩ := styleByDefinition_plain (p := p) hd
      rw [hcollector, huse]
      exact ⟨hp,fun e he => absurd he (Option.not_mem_none e)⟩
    | true =>
      obtain ⟨hcollector,huse⟩ := styleByDefinition_declared (p := p) hd
      obtain ⟨hreserved,hname⟩ := p.collector.forall_names_reserve hp h.id
        (definitionName_wantedName s.backend h).fresh
      rw [hcollector, huse]
      refine ⟨hreserved,fun e he => ?_⟩
      obtain ⟨hback,hen⟩ := backend_of_definition? he
      exact ⟨hback,hen ▸ hname⟩

/-- Every definition that a run of styling comes to has a proper name. -/
theorem definitionName_styleAll (hp : p.collector.NamesDefinitions s.backend)
    (hu : u ∈ (styleAll s p hs).2) (he : u.definition? = some e) :
    (s.backend = .styledComponents ∨ s.backend = .emotion) ∧ DefinitionName s.backend e.name := by
  induction hs generalizing p with
  | nil => cases hu
  | cons h hs ih =>
    obtain ⟨hstep,hfirst⟩ := definitionName_styleElement (h := h) hp
    obtain rfl | hu := List.mem_cons.mp hu
    · exact hfirst e he
    · exact ih hstep hu

end

end DesignCompiler.Styling
