import DesignCompiler.Proofs.Markup.Pieces
import DesignCompiler.Proofs.Styling.Sources
import Mathlib.Data.List.Nodup

/-! Each element that needs a style has one of its own: a name that no other element has, with one
definition, and in a style sheet one rule. -/
namespace DesignCompiler
open Styling

namespace Styling

/-- The style of an element by the names of elements. If it has declarations, it refers to its name,
under which they stand in a rule or a definition. -/
def Scheme.styleUnder (s : Scheme) (nameOf : ElementHead → String) (h : ElementHead) : StyleUse :=
  if s.declares h then
    match s.backend with
    | .styledComponents => .styledTag ⟨nameOf h,s.ownSource h (nameOf h)⟩
    | .emotion => .styleObject ⟨nameOf h,s.ownSource h (nameOf h)⟩
    | .cssModules | .tailwind => .moduleClass (nameOf h) (s.ownSource h (nameOf h))
  else .plain

lemma Scheme.styleUnder_of_declares {s : Scheme} {h : ElementHead} (hd : s.declares h = true)
    (nameOf : ElementHead → String) :
    s.styleUnder nameOf h = useOf s.backend (nameOf h) (s.ownSource h (nameOf h)) := by
  rw [styleUnder, if_pos hd]
  cases s.backend <;> rfl

lemma Scheme.styleUnder_of_not_declares {s : Scheme} {h : ElementHead} (hd : s.declares h = false)
    (nameOf : ElementHead → String) : s.styleUnder nameOf h = .plain := by
  rw [styleUnder, hd]
  rfl

/-- The name that a collector has for an element. -/
def nameIn (c : StyleCollector) (h : ElementHead) : String := (c.nameFor? h.id).getD ""

namespace Records
variable {s : Scheme} {c : StyleCollector} {log : StyleLog}

lemma nameIn_of_mem {h : ElementHead} {name : String} (hr : Records s c log)
    (he : (h,name) ∈ log) : nameIn c h = name := by
  rw [nameIn, hr.nameFor?_of_mem he, Option.getD_some]

lemma styles_eq {hs : List ElementHead} {us : List StyleUse} (hr : Records s c log)
    (ht : List.Forall₂ (TakesStyle s log) hs us) : us = hs.map (s.styleUnder (nameIn c)) := by
  symm
  rw [← List.forall₂_eq_eq_eq, List.forall₂_map_left_iff]
  refine ht.imp ?_
  intro h u hu
  cases hu with
  | plain hd => exact Scheme.styleUnder_of_not_declares hd _
  | defined hd he =>
    rw [Scheme.styleUnder_of_declares hd, hr.nameIn_of_mem he, Scheme.source_eq_ownSource]

lemma rules_eq {hs : List ElementHead} {rules : List String} (hr : Records s c log)
    (ht : List.Forall₂ (TakesRule s log) hs rules) :
    rules = hs.map fun h => s.ownSource h (nameIn c h) := by
  symm
  rw [← List.forall₂_eq_eq_eq, List.forall₂_map_left_iff]
  refine ht.imp ?_
  rintro h rule ⟨name,he,rfl⟩
  rw [hr.nameIn_of_mem he, Scheme.source_eq_ownSource]

lemma nodup_nameIn {hs : List ElementHead} {rules : List String} (hr : Records s c log)
    (hn : hs.Nodup) (ht : List.Forall₂ (TakesRule s log) hs rules) :
    (hs.map (nameIn c)).Nodup := by
  have hlog : ∀ h ∈ hs, ∃ name, (h,name) ∈ log := by
    refine ((List.forall₂_and_left (R := TakesRule s log) hs rules).mp (ht.imp ?_)).1
    intro h rule hrule
    exact ⟨hrule.imp fun _ he => he.1,hrule⟩
  refine List.Nodup.map_on ?_ hn
  intro g hg h hh heq
  obtain ⟨x,hx⟩ := hlog g hg
  obtain ⟨y,hy⟩ := hlog h hh
  rw [hr.nameIn_of_mem hx, hr.nameIn_of_mem hy] at heq
  exact congrArg Prod.fst (List.inj_on_of_nodup_map hr.names hx hy heq)

/-- The names of a log are those that its elements have in any collector with a longer log. -/
lemma map_nameIn {first more : StyleLog} (hr : Records s c (first ++ more)) :
    (first.map (·.1)).map (nameIn c) = first.map (·.2) := by
  rw [List.map_map]
  apply List.map_congr_left
  rintro ⟨h,name⟩ he
  exact hr.nameIn_of_mem (List.mem_append_left more he)

lemma definitions_eq {c' : StyleCollector} {first more : StyleLog}
    (hr : Records s c' (first ++ more)) (hc : Records s c first) :
    c.definitions = (first.map (·.1)).map fun h => (nameIn c' h,s.ownSource h (nameIn c' h)) := by
  rw [hc.definitions, List.map_map]
  apply List.map_congr_left
  rintro ⟨h,name⟩ he
  simp [hr.nameIn_of_mem (List.mem_append_left more he), Scheme.source_eq_ownSource]

end Records

end Styling

namespace Markup

lemma definitions_styleUnder {s : Scheme} (hb : s.backend ≠ .tailwind)
    (hc : s.backend ≠ .cssModules) (nameOf : ElementHead → String) (hs : List ElementHead) :
    (hs.map (s.styleUnder nameOf)).filterMap StyleUse.definition? =
      (hs.filter s.declares).map fun h => ⟨nameOf h,s.ownSource h (nameOf h)⟩ := by
  have huse : ∀ name source, (useOf s.backend name source).definition? = some ⟨name,source⟩ := by
    intro name source
    cases h : s.backend <;> first | contradiction | rfl
  induction hs with
  | nil => rfl
  | cons h hs ih =>
    rw [List.map_cons, List.filterMap_cons, ih, List.filter_cons]
    cases hd : s.declares h with
    | false => simp [Scheme.styleUnder_of_not_declares hd, StyleUse.definition?]
    | true => simp [Scheme.styleUnder_of_declares hd, huse]

lemma name_of_styleUnder {s : Scheme} {nameOf : ElementHead → String} {h : ElementHead}
    {name rule : String} (hu : s.styleUnder nameOf h = .moduleClass name rule) :
    s.declares h = true ∧ nameOf h = name := by
  cases hd : s.declares h with
  | false =>
    rw [Scheme.styleUnder_of_not_declares hd] at hu
    contradiction
  | true =>
    rw [Scheme.styleUnder_of_declares hd] at hu
    refine ⟨rfl,?_⟩
    unfold useOf at hu
    split at hu <;> cases hu <;> rfl

/-- A name that a style uses stands once among the names of the elements that need a style. -/
lemma count_name_of_styleUnder {s : Scheme} {nameOf : ElementHead → String}
    {hs all : List ElementHead} {name rule : String}
    (hall : ((all.filter s.declares).map nameOf).Nodup) (hsub : hs ⊆ all)
    (hu : .moduleClass name rule ∈ hs.map (s.styleUnder nameOf)) :
    ((all.filter s.declares).map nameOf).count name = 1 := by
  obtain ⟨h,hh,hs⟩ := List.mem_map.mp hu
  obtain ⟨hd,rfl⟩ := name_of_styleUnder hs
  refine List.count_eq_one_of_mem hall (List.mem_map_of_mem ?_)
  exact List.mem_filter.mpr ⟨hsub hh,hd⟩

/-- When definitions style the elements of a tree whose identities differ, each element that is
rendered and needs a style has one under a name of its own, with its own declarations; the
definitions are these and no others, and a style sheet has one rule for each element of the tree
that needs a style, rendered or not. -/
theorem elements_have_own_styles (st : Setting) (p : Progress) (component : String)
    (root : Element) (hb : st.scheme.backend ≠ .tailwind) (hids : (root.walk.map (·.id)).Nodup) :
    ∃ nameOf : ElementHead → String,
      let built := build st p.reset component root
      let opened := openings built.2.written
      let styled := (rendered root).filter st.scheme.declares
      let all := root.walk.filter st.scheme.declares
      built.2.IsWritten ∧
      opened.map (·.tag) = (rendered root).map (·.tag) ∧
      opened.map (·.style) = (rendered root).map (st.scheme.styleUnder nameOf) ∧
      (styled.map nameOf).Nodup ∧
      built.1.collector.definitions =
        styled.map (fun h => (nameOf h,st.scheme.ownSource h (nameOf h))) ∧
      (st.scheme.backend ≠ .cssModules → built.2.definitions =
        styled.map fun h => ⟨nameOf h,st.scheme.ownSource h (nameOf h)⟩) ∧
      (st.scheme.backend = .cssModules →
        (styleSheet st.scheme built.1 [root]).2 = (if all.isEmpty then none else
          some ("\n".intercalate (all.map fun h => "." ++ nameOf h ++ " \x7b\n" ++
            declarationLines (st.scheme.ownDeclarations h) ++ "\x7d\n"))) ∧
        (all.map nameOf).Nodup ∧
        ∀ o ∈ opened, ∀ name rule, o.style = .moduleClass name rule →
          (all.map nameOf).count name = 1) := by
  have hsub := rendered_sublist_walk root
  have hrender := renders_build st p.reset component root
  have hparts : (build st p.reset component root).2.root.parts =
      (build st p.reset component root).2.written := Jsx.parts_eq_flatMap_ownParts _
  obtain ⟨log,hlog,hr,hts⟩ := (Records.empty st.scheme).styleAll (p := p.reset) hb
    (fun _ _ => List.not_mem_nil) (hids.sublist (hsub.map _))
  rw [List.nil_append] at hr hts
  rw [hrender.progress] at hr
  have htrees : [root].flatMap Element.walk = root.walk := List.flatMap_singleton _ _
  have hwalk : ∀ h ∈ log.map (·.1), h ∈ root.walk := by
    intro h hh
    rw [hlog] at hh
    exact hsub.subset (List.mem_of_mem_filter hh)
  obtain ⟨more,rules,hfull,hsheet⟩ := hr.styleSheet
    (fun h hh => mem_log_or_new hids hwalk (htrees ▸ hh)) (by rwa [htrees])
  rw [htrees] at hsheet
  have hstyles := hfull.styles_eq (hts.imp fun _ _ ht => ht.append more)
  have hdefinitions := definitions_eq_firstByKey (build st p.reset component root).2
  rw [hrender.styles, hstyles] at hdefinitions
  rw [hparts] at hrender
  refine ⟨nameIn (styleSheet st.scheme (build st p.reset component root).1 [root]).1.collector,
    isWritten _,hrender.tags,?_,?_,?_,?_,?_⟩
  · rw [hrender.styles, hstyles]
  · rw [← hlog, hfull.map_nameIn]
    exact hr.names
  · rw [← hlog]
    exact hfull.definitions_eq hr
  · intro hc
    rw [hdefinitions, definitions_styleUnder hb hc]
    apply firstByKey_of_nodup
    · rw [← hlog, List.map_map]
      exact (hfull.map_nameIn ▸ hr.names :)
    · exact fun _ _ => List.not_mem_nil
  · intro hc
    obtain ⟨hcss,hrules⟩ := hsheet hc
    have hall := hfull.nodup_nameIn ((List.Nodup.of_map _ hids).filter _) hrules
    refine ⟨?_,hall,?_⟩
    · rw [hcss, hfull.rules_eq hrules, List.isEmpty_map]
      simp only [Scheme.ownSource, hc, sourceText]
    · intro o ho name rule hu
      have hmem := List.mem_map_of_mem (f := (·.style)) ho
      rw [hrender.styles, hstyles, hu] at hmem
      exact count_name_of_styleUnder hall hsub.subset hmem

/-- Rows of one name, of which the markup leaves one out. -/
theorem rows_have_own_styles :
    let row (id : String) (kind : ElementKind) : ElementHead :=
      { ElementHead.bare id kind "div" "Row" with layout := { Layout.plain with display := .flex } }
    let root : Element := .mk (row "1" .container) [.leaf (row "2" .divider),.leaf (row "3" .icon)]
    let st : Setting := ⟨⟨.cssModules,false,.standard⟩,.empty,.standard⟩
    let built := build st Progress.start.reset "Rows" root
    let rule (name : String) := "." ++ name ++ " \x7b\n  display: flex;\n\x7d\n"
    built.2.text "  " 0 = "<div className=\x7bstyles.row\x7d>\n" ++
        "  <div className=\x7bstyles.row2\x7d />\n" ++
        "  \x7b/* icon: Row */\x7d\n" ++
        "</div>" ∧
      ∃ x y z, [x,y,z].Nodup ∧
        (openings built.2.written).map (·.style) =
          [.moduleClass x (rule x),.moduleClass y (rule y)] ∧
        (styleSheet st.scheme built.1 [root]).2 =
          some ("\n".intercalate [rule x,rule y,rule z]) := by
  intro row root st built rule
  obtain ⟨nameOf,-,-,hstyles,-,-,-,hsheet⟩ := elements_have_own_styles st Progress.start "Rows" root
    (by decide) (by decide +kernel)
  obtain ⟨hcss,hnodup,-⟩ := hsheet rfl
  have hrendered : rendered root = [row "1" .container,row "2" .divider] := rfl
  have hall : root.walk.filter st.scheme.declares =
      [row "1" .container,row "2" .divider,row "3" .icon] := rfl
  have hrule : ∀ id kind name, "." ++ name ++ " \x7b\n" ++
      declarationLines (st.scheme.ownDeclarations (row id kind)) ++ "\x7d\n" = rule name := by
    intro id kind name
    have hbody : " \x7b\n  display: flex;\n\x7d\n" =
        " \x7b\n" ++ declarationLines (st.scheme.ownDeclarations (row id kind)) ++ "\x7d\n" := rfl
    dsimp only [rule]
    rw [hbody]
    simp only [String.append_assoc]
  rw [hrendered] at hstyles
  rw [hall] at hcss hnodup
  refine ⟨by decide +kernel,_,_,_,hnodup,hstyles.trans ?_,hcss.trans ?_⟩
  · exact congrArg₂ (fun x y => [StyleUse.moduleClass _ x,.moduleClass _ y])
      (hrule "1" .container _) (hrule "2" .divider _)
  · simp only [List.isEmpty_cons, Bool.false_eq_true, if_false, List.map_cons, List.map_nil, hrule]

end Markup

end DesignCompiler
