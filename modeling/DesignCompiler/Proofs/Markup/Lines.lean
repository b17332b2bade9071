import DesignCompiler.Proofs.Markup.Rendering
import DesignCompiler.Proofs.Styling.Definitions

/-! The lines of markup. Each begins with a tag or a brace, so that no marker stands on one: texts
and attribute values are escaped, and what is written as it stands is on one line. -/
namespace DesignCompiler.Markup
open Text Styling UserBlocks

/-! ## Texts inside markup -/

lemma lineFeed_notMem_singleton {c : Char} (h : ¬ (c == '\n') = true) : '\n' ∉ [c] := by
  rw [List.mem_singleton]
  rintro rfl
  exact h rfl

lemma lineFeed_notMem_flatMap {f : Char → List Char} {cs : List Char} (h : ∀ c, '\n' ∉ f c) :
    '\n' ∉ cs.flatMap f := by
  intro hc
  obtain ⟨c,-,hc⟩ := List.mem_flatMap.mp hc
  exact h c hc

theorem oneLine_escapeText (s : String) : OneLine (escapeText s) := by
  refine oneLine_ofList.mpr (lineFeed_notMem_flatMap fun c => ?_)
  unfold escapeChar
  split_ifs with _ _ _ _ _ hlf
  iterate 6 decide
  exact lineFeed_notMem_singleton hlf

theorem oneLine_scriptString (s : String) : OneLine (scriptString s) := by
  have hchars : '\n' ∉ s.toList.flatMap scriptChar := by
    refine lineFeed_notMem_flatMap fun c => ?_
    unfold scriptChar
    split_ifs with _ _ hlf
    iterate 3 decide
    exact lineFeed_notMem_singleton hlf
  rw [scriptString, oneLine_ofList]
  simp [scriptStringChars, hchars]

lemma lineFeed_notMem_quoteChars (cs : List Char) : '\n' ∉ Json.quoteChars cs := by
  have hchars : '\n' ∉ cs.flatMap Json.escapeChar := by
    refine lineFeed_notMem_flatMap fun c => ?_
    unfold Json.escapeChar
    split_ifs with _ _ hlf
    iterate 7 decide
    · simp [Ne.symm (digitChar_ne_lineFeed _)]
    · exact lineFeed_notMem_singleton hlf
  simp [Json.quoteChars, hchars]

theorem oneLine_attributeValue (s : String) : OneLine (attributeValue s) := by
  refine oneLine_ofList.mpr ?_
  unfold attributeChars
  split
  · simp [lineFeed_notMem_quoteChars]
  · next h =>
    have hs : '\n' ∉ s.toList := fun hc => h (List.any_eq_true.mpr ⟨_,hc,by decide⟩)
    simp [hs]

lemma commentChars_subset (cs : List Char) : '\n' ∉ cs → '\n' ∉ commentChars cs := by
  induction cs using commentChars.induct with
  | case1 cs ih =>
    intro h
    rw [commentChars]
    simpa using ih (by simpa using h)
  | case2 c cs hne ih =>
    intro h
    rw [commentChars.eq_2 c cs hne]
    rw [List.mem_cons, not_or] at h ⊢
    exact ⟨h.1,ih h.2⟩
  | case3 => exact id

lemma oneLine_commentMarkup {text : String} (h : OneLine text) : OneLine (commentMarkup text) := by
  have hchars : OneLine (commentText text) := oneLine_ofList.mpr (commentChars_subset _ h)
  simp +decide only [commentMarkup, oneLine_append, hchars, and_self]

/-! ## Lines -/

/-- An opening whose names and whose style stand on one line. -/
structure Opening.Proper (o : Opening) : Prop where
  tag : OneLine o.tag
  style : o.style.Proper
  texts : AllOneLine (o.texts.map (·.1))

/-- A prop is named by a text on one line; a literal may be any text. -/
def TextContent.Proper : TextContent → Prop
  | literal _ => True
  | prop name => OneLine name

/-- Markup in which everything that is not escaped stands on one line. -/
inductive Jsx.Proper : Jsx → Prop
  | comment {text : String} : OneLine text → Proper (.comment text)
  | icon {i : IconImport} {keyed : Bool} : OneLine i.ident → OneLine i.url → Proper (.icon i keyed)
  | component {tag : String} {overrides : List (String × OverrideValue)} {keyed : Bool} :
      OneLine tag → AllOneLine (overrides.map (·.1)) → Proper (.component tag overrides keyed)
  | void {o : Opening} : o.Proper → Proper (.void o)
  | text {o : Opening} {content : TextContent} : o.Proper → content.Proper →
      Proper (.text o content)
  | inlined {o : Opening} {child : Jsx} : o.Proper → child.Proper → Proper (.inlined o child)
  | block {o : Opening} {children : List Jsx} : o.Proper → (∀ j ∈ children, j.Proper) →
      Proper (.block o children)
  | each {c : Collection} {template : Jsx} : OneLine c.name → template.Proper →
      Proper (.each c template)

lemma oneLine_attributeText {name value : String} (hn : OneLine name) (hv : OneLine value) :
    OneLine (attributeText name value) := by
  simp +decide only [attributeText, oneLine_append, hn, hv, and_self]

lemma oneLine_keyText (keyed : Bool) : OneLine (keyText keyed) := by cases keyed <;> decide

lemma oneLine_overrideText {name : String} (hn : OneLine name) (v : OverrideValue) :
    OneLine (overrideText name v) := by
  obtain s | (_ | _) := v
  · exact oneLine_attributeText hn (oneLine_attributeValue s)
  · exact oneLine_attributeText hn (by decide)
  · exact oneLine_append.mpr ⟨by decide,hn⟩

section
variable {o : Opening}

lemma Opening.Proper.oneLine_name (h : o.Proper) : OneLine o.name := by
  unfold Opening.name
  cases ht : o.style.tag? with
  | none => exact h.tag
  | some name => exact h.style.tag name ht

lemma Opening.Proper.oneLine_inner (h : o.Proper) : OneLine o.inner := by
  have hstyle : ∀ e ∈ o.style.attributes, OneLine (attributeText e.1 e.2) := fun e he =>
    oneLine_attributeText (h.style.attributes e he).1 (h.style.attributes e he).2
  have htexts : ∀ e ∈ o.texts, OneLine (attributeText e.1 (attributeValue e.2)) := fun e he =>
    oneLine_attributeText (h.texts _ (List.mem_map_of_mem he)) (oneLine_attributeValue _)
  simp only [Opening.inner, oneLine_append, h.oneLine_name, oneLine_keyText,
    oneLine_join.mpr (List.forall_mem_map.mpr hstyle),
    oneLine_join.mpr (List.forall_mem_map.mpr htexts), and_self]

end

lemma TextContent.Proper.oneLine_text {c : TextContent} (h : c.Proper) : OneLine c.text := by
  cases c with
  | literal s => exact oneLine_escapeText s
  | prop name => exact oneLine_append.mpr ⟨oneLine_append.mpr ⟨by decide,h⟩,by decide⟩

lemma isIndent_indentation {unit : String} (hu : Section.IsIndent unit) (depth : ℕ) :
    Section.IsIndent (indentation unit depth) := by
  constructor
  · refine List.all_eq_true.mpr fun c hc => ?_
    rw [indentation, String.toList_join] at hc
    obtain ⟨s,hs,hc⟩ := List.mem_flatMap.mp hc
    rw [List.eq_of_mem_replicate hs] at hc
    exact List.all_eq_true.mp hu.1 c hc
  · refine oneLine_join.mpr fun s hs => ?_
    rw [List.eq_of_mem_replicate hs]
    exact hu.2

/-- A line that is no marker and cannot be one with more text at its end. -/
def IsMarkupLine (l : String) : Prop := OneLine l ∧ leads l = true

lemma isMarkupLine_of_leads {indent s : String} (hi : Section.IsIndent indent) (hs : OneLine s)
    (hl : leads s = true) : IsMarkupLine (indent ++ s) :=
  ⟨oneLine_append.mpr ⟨hi.2,hs⟩,leads_append_left hi.1 hl⟩

lemma isMarkupLine_append {l s : String} (hl : IsMarkupLine l) (hs : OneLine s) :
    IsMarkupLine (l ++ s) :=
  ⟨oneLine_append.mpr ⟨hl.1,hs⟩,leads_append hl.2 s⟩

lemma allLines_eq_flatMap (unit : String) (depth : ℕ) (js : List Jsx) :
    Jsx.allLines unit depth js = js.flatMap (·.lines unit depth) := by
  induction js with
  | nil => rfl
  | cons j js ih => rw [Jsx.allLines, ih, List.flatMap_cons]

/-- Every line of such markup begins with a tag or a brace. -/
theorem Jsx.Proper.lines {j : Jsx} (h : j.Proper) {unit : String} (hu : Section.IsIndent unit)
    (depth : ℕ) : ∀ l ∈ j.lines unit depth, IsMarkupLine l := by
  have htag : ∀ depth, IsMarkupLine (indentation unit depth ++ "<") := fun depth =>
    isMarkupLine_of_leads (isIndent_indentation hu depth) (by decide) (by decide)
  have hclose : ∀ depth, IsMarkupLine (indentation unit depth ++ "</") := fun depth =>
    isMarkupLine_of_leads (isIndent_indentation hu depth) (by decide) (by decide)
  induction h generalizing depth with
  | @comment text ht =>
    refine List.forall_mem_singleton.mpr (isMarkupLine_of_leads (isIndent_indentation hu depth)
      (oneLine_commentMarkup ht) ?_)
    exact leads_append (leads_append (by decide) _) _
  | @icon i keyed hident hurl =>
    refine List.forall_mem_singleton.mpr ?_
    exact isMarkupLine_append (isMarkupLine_append (isMarkupLine_append (htag depth) hident)
      (oneLine_keyText keyed)) (by decide)
  | @component tag overrides keyed ht ho =>
    have hoverride : ∀ e ∈ overrides, OneLine (overrideText e.1 e.2) := fun e he =>
      oneLine_overrideText (ho _ (List.mem_map_of_mem he)) _
    have hoverrides := oneLine_join.mpr (List.forall_mem_map.mpr hoverride)
    refine List.forall_mem_singleton.mpr ?_
    exact isMarkupLine_append (isMarkupLine_append (isMarkupLine_append (isMarkupLine_append
      (htag depth) ht) (oneLine_keyText keyed)) hoverrides) (by decide)
  | void ho =>
    refine List.forall_mem_singleton.mpr ?_
    exact isMarkupLine_append (isMarkupLine_append (htag depth) ho.oneLine_inner) (by decide)
  | text ho hc =>
    have hend := ho.oneLine_name
    refine List.forall_mem_singleton.mpr ?_
    refine isMarkupLine_append (isMarkupLine_append (isMarkupLine_append (isMarkupLine_append
      (isMarkupLine_append (isMarkupLine_append (htag depth) ho.oneLine_inner) (by decide))
      hc.oneLine_text) (by decide)) hend) (by decide)
  | inlined ho hj ih =>
    have hchild := oneLine_join.mpr fun l hl => (ih 0 l hl).1
    refine List.forall_mem_singleton.mpr ?_
    exact isMarkupLine_append (isMarkupLine_append (isMarkupLine_append (isMarkupLine_append
      (isMarkupLine_append (isMarkupLine_append (htag depth) ho.oneLine_inner) (by decide))
      hchild) (by decide)) ho.oneLine_name) (by decide)
  | block ho hjs ih =>
    rw [Jsx.lines, allLines_eq_flatMap, List.forall_mem_append, List.forall_mem_append,
      List.forall_mem_flatMap]
    refine ⟨⟨List.forall_mem_singleton.mpr ?_,fun j hj => ih j hj (depth+1)⟩,
      List.forall_mem_singleton.mpr ?_⟩
    · exact isMarkupLine_append (isMarkupLine_append (htag depth) ho.oneLine_inner) (by decide)
    · exact isMarkupLine_append (isMarkupLine_append (hclose depth) ho.oneLine_name) (by decide)
  | each hc hj ih =>
    have hopen : IsMarkupLine (indentation unit depth ++ "\x7b") :=
      isMarkupLine_of_leads (isIndent_indentation hu depth) (by decide) (by decide)
    rw [Jsx.lines, List.forall_mem_append, List.forall_mem_append]
    refine ⟨⟨List.forall_mem_singleton.mpr ?_,ih (depth+1)⟩,List.forall_mem_singleton.mpr ?_⟩
    · exact isMarkupLine_append (isMarkupLine_append hopen hc) (by decide)
    · exact isMarkupLine_of_leads (isIndent_indentation hu depth) (by decide) (by decide)

/-! ## References -/

/-- What is said of whole markup, said of one of its parts. -/
def Jsx.Part.Proper : Jsx.Part → Prop
  | comment remark => OneLine remark
  | icon i => OneLine i.ident ∧ OneLine i.url
  | component tag => OneLine tag
  | opening o => o.Proper
  | content c => c.Proper
  | collection c => OneLine c.name

theorem Jsx.Proper.parts {j : Jsx} (h : j.Proper) : ∀ part ∈ j.parts, part.Proper := by
  induction h with
  | comment ht => exact List.forall_mem_singleton.mpr ht
  | icon hident hurl => exact List.forall_mem_singleton.mpr ⟨hident,hurl⟩
  | component ht ho => exact List.forall_mem_singleton.mpr ht
  | void ho => exact List.forall_mem_singleton.mpr ho
  | text ho hc =>
    exact List.forall_mem_cons.mpr ⟨ho,List.forall_mem_singleton.mpr hc⟩
  | inlined ho hj ih => exact List.forall_mem_cons.mpr ⟨ho,ih⟩
  | block ho hjs ih =>
    rw [Jsx.parts, allParts_eq_flatMap]
    exact List.forall_mem_cons.mpr ⟨ho,List.forall_mem_flatMap.mpr ih⟩
  | each hc hj ih => exact List.forall_mem_cons.mpr ⟨hc,ih⟩

end DesignCompiler.Markup
