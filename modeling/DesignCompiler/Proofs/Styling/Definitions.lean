import DesignCompiler.Proofs.Naming.Identifier
import DesignCompiler.Proofs.Styling.DeclarationTexts
import DesignCompiler.Proofs.Styling.Styler
import DesignCompiler.Proofs.UserBlocks.Plain

/-! The definitions ahead of a component are plain texts: each declaration stands on a line that
begins with its property. -/
namespace DesignCompiler.Styling
open Text Tokens UserBlocks

/-! ## Declarations -/

/-- The texts from which a part of a value is written. -/
def ValuePart.texts : ValuePart → List String
  | text s => [s]
  | token v => v.texts

/-- A property as it is written in a style sheet. -/
def IsProperty (property : String) : Prop := OneLine property ∧ leads property = true

instance (property : String) : Decidable (IsProperty property) :=
  inferInstanceAs (Decidable (_ ∧ _))

/-- A declaration that stands on a line of its own. -/
structure Declaration.Proper (d : Declaration) : Prop where
  property : IsProperty d.property
  parts : ∀ part ∈ d.parts, AllOneLine part.texts

lemma oneLine_access {s : String} (h : OneLine s) : OneLine (TokenPath.access s) := by
  unfold TokenPath.access
  split_ifs <;> simp +decide only [oneLine_append, h, and_self]

lemma oneLine_accessor {path : TokenPath} (h : AllOneLine path.segments) {root : String}
    (hr : OneLine root) : OneLine (path.accessor root) := by
  refine oneLine_append.mpr ⟨hr,oneLine_join.mpr (List.forall_mem_map.mpr ?_)⟩
  exact fun s hs => oneLine_access (h s hs)

lemma oneLine_cssVar {path : TokenPath} (h : AllOneLine path.segments) : OneLine path.cssVar := by
  have hname : OneLine path.propertyName := by
    refine oneLine_append.mpr ⟨by decide,oneLine_intercalate (by decide) ?_⟩
    refine List.forall_mem_map.mpr fun s hs => oneLine_ofList.mpr ?_
    rw [List.mem_map]
    rintro ⟨c,hc,he⟩
    split at he
    · contradiction
    · exact h s hs (he ▸ hc)
  simp +decide only [TokenPath.cssVar, oneLine_append, hname, and_self]

lemma oneLine_render (s : TokenStyle) {v : TokenValue} (h : AllOneLine v.texts) :
    OneLine (s.render v) := by
  cases v with
  | raw css => exact (allOneLine_cons.mp h).1
  | token path css =>
    obtain ⟨hcss,hsegments⟩ := allOneLine_cons.mp h
    have haccess : OneLine (path.accessor "theme") := oneLine_accessor hsegments (by decide)
    cases s with
    | literal => exact hcss
    | themeProps | themeScope =>
      exact oneLine_append.mpr ⟨oneLine_append.mpr ⟨by decide,haccess⟩,by decide⟩
    | cssVar => exact oneLine_cssVar hsegments

lemma Declaration.Proper.oneLine_value {d : Declaration} (h : d.Proper) (s : TokenStyle) :
    OneLine (d.value s) := by
  refine oneLine_join.mpr (List.forall_mem_map.mpr fun part hpart => ?_)
  have hp := h.parts part hpart
  cases part with
  | text t => exact (allOneLine_cons.mp hp).1
  | token v => exact oneLine_render s hp

namespace Sheet

/-- All declarations of a sheet stand on lines of their own. -/
def Proper (sh : Sheet) : Prop := ∀ d ∈ sh.1, d.Proper

end Sheet

section
variable {t : TokenTable}

/-- Every declaration of an element stands on a line of its own. -/
theorem proper_declarations (ht : AllOneLine t.rawTexts) {h : ElementHead}
    (hs : AllOneLine h.style.rawTexts) : (declarations t h).Proper := by
  intro d hd
  have hvalues : HoldsOfValues (· ≠ '\n') := by
    rintro c hc rfl
    exact absurd hc (by decide)
  have hwritten := writtenIn_declarations (t := t) hvalues (by decide)
    (fun r hr => oneLine_iff.mp (hs r hr)) d hd
  have hproperties : ∀ name ∈ propertyNames, IsProperty name := by decide
  refine ⟨hproperties _ hwritten.property,fun part hpart => ?_⟩
  cases part with
  | text s =>
    exact allOneLine_cons.mpr ⟨oneLine_iff.mpr (hwritten.texts s hpart),allOneLine_nil⟩
  | token v =>
    have hv : v ∈ (declarations t h).tokens :=
      List.mem_flatMap.mpr ⟨d,hd,Declaration.mem_tokens.mpr hpart⟩
    exact allOneLine_of_matched ht (matched_of_mem_declarations hv)

end

/-! ## Definitions -/

lemma blockBody_append (s : TokenStyle) (indent : String) (ds : List Declaration)
    (last : String) : blockBody s indent ds ++ last =
      ofLines (ds.map (fun d => indent ++ (d.property ++ ": " ++ d.value s ++ ";")) ++ [last]) := by
  induction ds with
  | nil => simp [blockBody, ofLines]
  | cons d ds ih =>
    have hend : ";\n" = ";" ++ "\n" := rfl
    rw [ofLines] at ih ⊢
    rw [List.map_cons, List.cons_append, String.intercalate_cons_of_ne_nil (by simp), ← ih,
      blockBody, List.map_cons, String.join_cons]
    simp only [blockBody, hend, String.append_assoc]

theorem plain_blockBody (s : TokenStyle) {ds : List Declaration} (h : ∀ d ∈ ds, d.Proper) :
    Plain (blockBody s "  " ds ++ "\x60;") := by
  rw [blockBody_append]
  refine plain_ofLines (List.forall_mem_append.mpr ⟨List.forall_mem_map.mpr fun d hd => ?_,?_⟩)
  · obtain ⟨hproperty,hleads⟩ := (h d hd).property
    have hvalue := (h d hd).oneLine_value s
    refine plain_of_leads ?_ (leads_append_left (by decide) ?_)
    · simp +decide only [oneLine_append, hproperty, hvalue, and_self]
    · exact leads_append (leads_append (leads_append hleads _) _) _
  · exact List.forall_mem_singleton.mpr (plain_of_leads (by decide) (by decide))

section
variable {s : TokenStyle} {name : String} {ds : List Declaration}

lemma plain_styledSource (hn : OneLine name) {tag : String} (ht : OneLine tag)
    (h : ∀ d ∈ ds, d.Proper) : Plain (styledSource s name tag ds) := by
  have hsplit : "\x60\n" = "\x60" ++ "\n" := rfl
  have hfirst : Plain ("const " ++ (name ++ " = styled." ++ tag ++ "\x60")) := by
    refine plain_append (by decide) ?_
    simp +decide only [oneLine_append, hn, ht, and_self]
  have h := plain_append_lineFeed.mpr ⟨hfirst,plain_blockBody s h⟩
  simpa only [styledSource, hsplit, String.append_assoc] using h

lemma plain_objectSource (hn : OneLine name) (h : ∀ d ∈ ds, d.Proper) :
    Plain (objectSource s name ds) := by
  have hsplit : "css\x60\n" = "css\x60" ++ "\n" := rfl
  have htheme : OneLine (if s.isThemed then "(theme: Theme) => " else "") := by split <;> decide
  have hfirst : Plain ("const " ++ (name ++ " = " ++
      (if s.isThemed then "(theme: Theme) => " else "") ++ "css\x60")) := by
    refine plain_append (by decide) ?_
    simp +decide only [oneLine_append, hn, htheme, and_self]
  have h := plain_append_lineFeed.mpr ⟨hfirst,plain_blockBody s h⟩
  simpa only [objectSource, hsplit, String.append_assoc] using h

end

/-! ## Styles of elements -/

/-- A style whose attributes and whose name for the element stand on one line, and whose definition
is plain. -/
structure StyleUse.Proper (u : StyleUse) : Prop where
  attributes : ∀ e ∈ u.attributes, OneLine e.1 ∧ OneLine e.2
  tag : ∀ name ∈ u.tag?, OneLine name
  definition : ∀ d ∈ u.definition?, Plain d.source

lemma StyleUse.proper_plain : plain.Proper :=
  ⟨List.forall_mem_nil _,(fun _ h => nomatch h),(fun _ h => nomatch h)⟩

lemma StyleUse.proper_classes {cs : List String} (h : AllOneLine cs) : (classes cs).Proper := by
  have hcs : OneLine (" ".intercalate cs) := oneLine_intercalate (by decide) h
  refine ⟨List.forall_mem_singleton.mpr ⟨(by decide : OneLine "className"),?_⟩,
    (fun _ h => nomatch h),(fun _ h => nomatch h)⟩
  simp +decide only [oneLine_append, hcs, and_self]

/-- Every name that a collector has given stands on one line. -/
def StyleCollector.Proper (c : StyleCollector) : Prop := AllOneLine (c.assigned.map (·.2))

lemma StyleCollector.Proper.reserve {c : StyleCollector} (hc : c.Proper) (id : String)
    {wanted : String} (hw : OneLine wanted) :
    (c.reserve id wanted).1.Proper ∧ OneLine (c.reserve id wanted).2 :=
  c.forall_names_reserve hc id fun used => Naming.oneLine_fresh hw used

lemma oneLine_wantedName (b : Backend) (h : ElementHead) : OneLine (wantedName b h) := by
  cases b with
  | styledComponents =>
    exact oneLine_append.mpr ⟨by decide,Naming.oneLine_componentIdentifier _⟩
  | emotion => exact oneLine_append.mpr ⟨Naming.oneLine_identifier _ _,by decide⟩
  | cssModules | tailwind => exact Naming.oneLine_identifier _ _

section
variable {s : Scheme} {p : Progress} {h : ElementHead}

lemma proper_useOf (ht : AllOneLine s.tokens.rawTexts) (hs : AllOneLine h.style.rawTexts)
    (htag : OneLine h.tag) {name : String} (hn : OneLine name) :
    (useOf s.backend name (s.source h name)).Proper := by
  have hds := proper_declarations ht hs
  unfold Scheme.source
  cases s.backend with
  | styledComponents =>
    refine ⟨List.forall_mem_nil _,?_,?_⟩
    · rintro _ ⟨⟩
      exact hn
    · rintro _ ⟨⟩
      exact plain_styledSource hn htag hds
  | emotion =>
    refine ⟨List.forall_mem_singleton.mpr ⟨(by decide : OneLine "css"),?_⟩,
      (fun _ h => nomatch h),?_⟩
    · exact oneLine_append.mpr ⟨oneLine_append.mpr ⟨by decide,hn⟩,by decide⟩
    · rintro _ ⟨⟩
      exact plain_objectSource hn hds
  | cssModules | tailwind =>
    refine ⟨List.forall_mem_singleton.mpr ⟨(by decide : OneLine "className"),?_⟩,
      (fun _ h => nomatch h),(fun _ h => nomatch h)⟩
    exact oneLine_append.mpr ⟨oneLine_append.mpr ⟨by decide,hn⟩,by decide⟩

/-- Styling an element gives it a proper style. -/
theorem proper_styleElement (ht : AllOneLine s.tokens.rawTexts)
    (hs : AllOneLine h.style.rawTexts) (htag : OneLine h.tag) (hp : p.collector.Proper) :
    (styleElement s p h).1.collector.Proper ∧ (styleElement s p h).2.Proper := by
  by_cases hb : s.backend = .tailwind
  · simp only [styleElement, hb, styleByClasses]
    refine ⟨hp,?_⟩
    split
    · exact StyleUse.proper_plain
    · exact StyleUse.proper_classes (allOneLine_utilityClasses ht hs)
  · rw [styleElement_of_ne_tailwind hb]
    cases hd : s.declares h with
    | false =>
      obtain ⟨hcollector,huse⟩ := styleByDefinition_plain (p := p) hd
      rw [hcollector, huse]
      exact ⟨hp,StyleUse.proper_plain⟩
    | true =>
      obtain ⟨hcollector,huse⟩ := styleByDefinition_declared (p := p) hd
      obtain ⟨hreserved,hname⟩ := hp.reserve h.id (oneLine_wantedName s.backend h)
      rw [hcollector, huse]
      exact ⟨hreserved,proper_useOf ht hs htag hname⟩

end

end DesignCompiler.Styling
