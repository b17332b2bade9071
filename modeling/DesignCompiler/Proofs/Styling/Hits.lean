import DesignCompiler.Proofs.Styling.CustomProperties

/-! The tokens in the declarations of an element. Each is what the table gives for a color, a
length, a size of a font or the shadows of the design. -/
namespace DesignCompiler.Styling
open Tokens

/-- The tokens in a value. -/
def Declaration.tokens (d : Declaration) : List TokenValue :=
  d.parts.filterMap fun
    | .token v => some v
    | .text _ => none

lemma Declaration.mem_tokens {d : Declaration} {v : TokenValue} :
    v ∈ d.tokens ↔ .token v ∈ d.parts := by
  rw [tokens, List.mem_filterMap]
  constructor
  · rintro ⟨part,hpart,he⟩
    cases part with
    | text s => contradiction
    | token w =>
      cases he
      exact hpart
  · exact fun h => ⟨_,h,rfl⟩

namespace Sheet

/-- The tokens in the values of a sheet. -/
def tokens (sh : Sheet) : List TokenValue := sh.1.flatMap Declaration.tokens

@[simp] lemma tokens_none : none.tokens = [] := rfl

@[simp] lemma tokens_append (a b : Sheet) : (a.append b).tokens = a.tokens ++ b.tokens :=
  List.flatMap_append

lemma tokens_foldl (sheets : List Sheet) (start : Sheet) :
    Sheet.tokens (sheets.foldl append start) = start.tokens ++ sheets.flatMap tokens := by
  induction sheets generalizing start with
  | nil => simp
  | cons x sheets ih =>
    rw [List.foldl_cons, ih, tokens_append, List.flatMap_cons, List.append_assoc]

@[simp] lemma tokens_join (sheets : List Sheet) : (join sheets).tokens = sheets.flatMap tokens :=
  tokens_foldl sheets none

@[simp] lemma tokens_texts (entries : List (String × Option String)) :
    (texts entries).tokens = [] := by
  simp only [tokens, texts, plain, List.flatMap_eq_nil_iff, List.mem_filterMap,
    Option.map_eq_some_iff]
  rintro d ⟨e,-,v,-,rfl⟩
  rfl

@[simp] lemma tokens_matched (property : String) (v : Counted TokenValue) :
    (matched property v).tokens = [v.1] := rfl

@[simp] lemma tokens_matchedList (property : String) (vs : List (Counted TokenValue)) :
    (matchedList property vs).tokens = vs.map (·.1) := by
  simp only [tokens, matchedList, List.flatMap_singleton, Declaration.tokens]
  induction vs with
  | nil => rfl
  | cons v vs ih =>
    cases vs with
    | nil => rfl
    | cons w vs => simpa using ih

@[simp] lemma mem_tokens_optional {α : Type} {a : Option α} {f : α → Sheet} {v : TokenValue} :
    v ∈ (optional a f).tokens ↔ ∃ x ∈ a, v ∈ (f x).tokens := by
  cases a <;> simp [optional]

end Sheet

section
variable {t : TokenTable} {v : TokenValue}

lemma matched_of_mem_layoutSheet {l : Layout} (hv : v ∈ (layoutSheet t l).tokens) :
    Matched t v := by
  simp only [layoutSheet, Sheet.tokens_join, List.flatMap_cons, List.flatMap_nil, List.mem_append,
    Sheet.tokens_texts, Sheet.mem_tokens_optional, Sheet.tokens_matched, Sheet.tokens_matchedList,
    List.mem_map, List.mem_singleton, List.not_mem_nil, false_or, or_false] at hv
  obtain ⟨x,-,rfl⟩ | ⟨x,-,rfl⟩ | ⟨x,-,rfl⟩ | ⟨p,-,_,⟨x,-,rfl⟩,rfl⟩ := hv
  all_goals exact .spacing x

/-- Both ends of a matched gradient are matched colors. -/
lemma matched_of_matchGradient {g : Gradient} {d : Direction} {start stop : TokenValue}
    (h : (matchGradient t g).1 = .directional d start stop) : Matched t start ∧ Matched t stop := by
  obtain ⟨d',a,b,hg⟩ | hg := matchGradient_cases t g
  · cases hg.symm.trans h
    exact ⟨.color a,.color b⟩
  · nomatch hg.symm.trans h

lemma matched_of_mem_backgroundSheet {b : Background} (hv : v ∈ (backgroundSheet t b).tokens) :
    Matched t v := by
  cases b with
  | solid c =>
    obtain rfl := List.mem_singleton.mp hv
    exact .color c
  | gradient g =>
    unfold backgroundSheet at hv
    dsimp only at hv
    split at hv
    · next d start stop tally he =>
      obtain ⟨hstart,hstop⟩ := matched_of_matchGradient (congrArg Prod.fst he)
      have hends : v = start ∨ v = stop := by simpa [Sheet.tokens, Declaration.tokens] using hv
      obtain rfl | rfl := hends
      · exact hstart
      · exact hstop
    · simp [Sheet.tokens, Declaration.tokens, Declaration.plain] at hv
  | image i => simp [backgroundSheet] at hv

lemma matched_of_mem_borderSheet {b : Border} (hv : v ∈ (borderSheet t b).tokens) :
    Matched t v := by
  obtain rfl := List.mem_singleton.mp hv
  exact .color b.color

lemma matched_of_mem_radiusSheet {r : Radius} (hv : v ∈ (radiusSheet t r).tokens) :
    Matched t v := by
  cases r with
  | uniform r =>
    obtain rfl := List.mem_singleton.mp hv
    exact .radius r
  | corners c => simp [radiusSheet] at hv

lemma matched_of_mem_fontSheet {f : Font} (hv : v ∈ (fontSheet t f).tokens) : Matched t v := by
  simp only [fontSheet, Sheet.tokens_join, List.flatMap_cons, List.flatMap_nil, List.mem_append,
    Sheet.tokens_texts, Sheet.mem_tokens_optional, Sheet.tokens_matched, List.mem_singleton,
    List.not_mem_nil, false_or, or_false] at hv
  obtain rfl | ⟨c,-,rfl⟩ := hv
  · exact .fontSize f.size
  · exact .color c

lemma matched_of_mem_lookSheet {s : Style} (hv : v ∈ (lookSheet t s).tokens) : Matched t v := by
  simp only [lookSheet, Sheet.tokens_join, List.flatMap_cons, List.flatMap_nil, List.mem_append,
    Sheet.tokens_texts, Sheet.mem_tokens_optional, List.not_mem_nil, false_or, or_false] at hv
  obtain ⟨b,-,hv⟩ | ⟨b,-,hv⟩ | ⟨r,-,hv⟩ | hv | ⟨f,-,hv⟩ := hv
  · exact matched_of_mem_backgroundSheet hv
  · exact matched_of_mem_borderSheet hv
  · exact matched_of_mem_radiusSheet hv
  · split at hv
    · nomatch hv
    · obtain rfl := List.mem_singleton.mp hv
      exact .shadows s.shadows
  · exact matched_of_mem_fontSheet hv

/-- The tokens in the declarations of an element are matched with the table. -/
theorem matched_of_mem_declarations {h : ElementHead} (hv : v ∈ (declarations t h).tokens) :
    Matched t v := by
  rw [declarations, Sheet.tokens_append, List.mem_append] at hv
  exact hv.elim matched_of_mem_layoutSheet matched_of_mem_lookSheet

end

end DesignCompiler.Styling
