import DesignCompiler.Naming.Identifier
import DesignCompiler.Proofs.Naming.Fresh
import DesignCompiler.Proofs.Text.OneLine

/-! Identifiers stand on one line, whatever the names are from which they are made: their words hold
ASCII letters and digits only. -/
namespace DesignCompiler.Naming
open Text

lemma mem_consFirst {c : Char} {ws : List (List Char)} {w : List Char} (h : w ∈ consFirst c ws) :
    w ∈ ws ∨ w = [c] ∨ ∃ v ∈ ws, w = c :: v := by
  cases ws with
  | nil => exact .inr (.inl (List.mem_singleton.mp h))
  | cons v ws =>
    obtain rfl | h := List.mem_cons.mp h
    · exact .inr (.inr ⟨v,List.mem_cons_self,rfl⟩)
    · exact .inl (List.mem_cons_of_mem v h)

theorem isAlphanum_of_mem_rawParts {cs w : List Char} (hw : w ∈ rawParts cs) :
    ∀ c ∈ w, c.isAlphanum = true := by
  induction cs using rawParts.induct generalizing w with
  | case1 => nomatch hw
  | case2 c hc =>
    rw [rawParts, if_pos hc, List.mem_singleton] at hw
    simpa [hw] using hc
  | case3 c hc =>
    rw [rawParts, if_neg hc] at hw
    have hw : w = [] := by simpa using hw
    simp [hw]
  | case4 a b rest ha ih =>
    rw [rawParts, if_pos ha] at hw
    obtain rfl | hw := List.mem_cons.mp hw
    · exact List.forall_mem_nil _
    · exact ih hw
  | case5 a b rest ha hb ih =>
    rw [rawParts, if_neg ha, if_pos hb] at hw
    obtain rfl | hw := List.mem_cons.mp hw
    · simpa using ha
    · exact ih hw
  | case6 a b rest ha hb ih =>
    rw [rawParts, if_neg ha, if_neg hb] at hw
    have ha : a.isAlphanum = true := by simpa using ha
    obtain hw | rfl | ⟨v,hv,rfl⟩ := mem_consFirst hw
    · exact ih hw
    · simpa using ha
    · exact List.forall_mem_cons.mpr ⟨ha,ih hv⟩

/-! ## Identifiers on one line -/

lemma lineFeed_notMem_lowerWord {w : List Char} (h : '\n' ∉ w) : '\n' ∉ lowerWord w := by
  rw [lowerWord, List.mem_map]
  rintro ⟨c,hc,he⟩
  exact h (eq_lineFeed_of_toLower he ▸ hc)

lemma lineFeed_notMem_capitalWord {w : List Char} (h : '\n' ∉ w) : '\n' ∉ capitalWord w := by
  cases w with
  | nil => exact h
  | cons c w =>
    rw [List.mem_cons, not_or] at h
    rw [capitalWord, List.mem_cons, not_or]
    exact ⟨fun he => h.1 (eq_lineFeed_of_toUpper he.symm).symm,lineFeed_notMem_lowerWord h.2⟩

lemma lineFeed_notMem_joinWords (j : Joining) {ws : List (List Char)} (h : ∀ w ∈ ws, '\n' ∉ w) :
    '\n' ∉ joinWords j ws := by
  have hcapitals : ∀ {ws : List (List Char)}, (∀ w ∈ ws, '\n' ∉ w) →
      '\n' ∉ ws.flatMap capitalWord := by
    intro ws h hc
    obtain ⟨w,hw,hc⟩ := List.mem_flatMap.mp hc
    exact lineFeed_notMem_capitalWord (h w hw) hc
  cases j with
  | pascal => exact hcapitals h
  | camel =>
    cases ws with
    | nil => exact List.not_mem_nil
    | cons w ws =>
      obtain ⟨hw,hws⟩ := List.forall_mem_cons.mp h
      rw [joinWords, List.mem_append, not_or]
      exact ⟨lineFeed_notMem_lowerWord hw,hcapitals hws⟩
  | kebab =>
    have hwords : AllOneLine (ws.map fun w => .ofList (lowerWord w)) :=
      List.forall_mem_map.mpr fun w hw => oneLine_ofList.mpr (lineFeed_notMem_lowerWord (h w hw))
    have hjoin : OneLine ("-".intercalate _) := oneLine_intercalate (by decide) hwords
    simpa [OneLine, String.toList_intercalate, Function.comp_def, joinWords] using hjoin

theorem lineFeed_notMem_identifierChars (j : Joining) (cs : List Char) :
    '\n' ∉ identifierChars j cs := by
  have hwords : ∀ w ∈ identifierParts cs, '\n' ∉ w := by
    intro w hw hc
    exact absurd (isAlphanum_of_mem_rawParts (List.mem_filter.mp hw).1 _ hc) (by decide)
  have hchars := lineFeed_notMem_joinWords j hwords
  unfold identifierChars
  split
  · exact lineFeed_notMem_joinWords j (by decide)
  · next c rest he =>
    rw [he] at hchars
    split
    · rw [List.mem_cons, not_or]
      exact ⟨by decide,hchars⟩
    · exact hchars

theorem oneLine_identifier (j : Joining) (name : String) : OneLine (identifier j name) :=
  oneLine_ofList.mpr (lineFeed_notMem_identifierChars j _)

theorem oneLine_componentIdentifier (name : String) : OneLine (componentIdentifier name) := by
  have hchars := lineFeed_notMem_identifierChars .pascal name.toList
  unfold componentIdentifier
  split
  · next rest he =>
    rw [he, List.mem_cons, not_or] at hchars
    rw [oneLine_ofList, List.mem_append, not_or]
    exact ⟨by decide,hchars.2⟩
  · exact oneLine_ofList.mpr hchars

theorem oneLine_propIdentifier (key : String) : OneLine (propIdentifier key) :=
  oneLine_ofList.mpr (lineFeed_notMem_identifierChars .camel _)

theorem oneLine_fresh {wanted : String} (h : OneLine wanted) (used : List String) :
    OneLine (fresh used wanted) := by
  obtain ⟨number,hfresh,hdigits⟩ := exists_fresh_eq_append used wanted
  rw [hfresh]
  exact oneLine_append.mpr ⟨h,fun hc => absurd (hdigits _ hc) (by decide)⟩

end DesignCompiler.Naming
