import DesignCompiler.Proofs.FromDesign.ProperTree
import DesignCompiler.Proofs.Markup.Building
import DesignCompiler.Proofs.Project.Paths
import DesignCompiler.Proofs.Project.References
import DesignCompiler.Proofs.Project.Timestamp

/-! The user blocks of generated files. The file of a component holds its two empty blocks and no
marker besides, when the texts that are written into it as they stand are each on one line. -/
namespace DesignCompiler

namespace Document
open FromDesign Text

/-- The texts of a document that are written into files as they stand. -/
def rawTexts (d : DesignCompiler.Document) : List String := d.root.toChild.rawTexts

end Document

namespace Project
open Document FromDesign Text Styling Markup Output

/-- The texts of the options that are written into files as they stand. -/
def ConvertOptions.rawTexts (o : ConvertOptions) : List String :=
  o.timestamp.toList ++ o.assetBase :: o.assets.map (·.2) ++ o.tokenTable.rawTexts

/-! ## The text of a file -/

section
open UserBlocks

lemma plain_lineFeed_append {text : String} : Plain ("\n" ++ text) ↔ Plain text := by
  have hfirst : "\n" ++ text = "" ++ "\n" ++ text := rfl
  rw [hfirst, plain_append_lineFeed, and_iff_right plain_empty]

/-- A blank line between two texts. -/
lemma plain_append_blank {a b : String} : Plain (a ++ "\n\n" ++ b) ↔ Plain a ∧ Plain b := by
  have hblank : "\n\n" = "\n" ++ "\n" := rfl
  rw [hblank, String.append_assoc, String.append_assoc, ← String.append_assoc,
    plain_append_lineFeed, plain_lineFeed_append]

/-- Texts with a blank line between any two. -/
lemma plain_intercalate_blank {texts : List String} (h : ∀ t ∈ texts, Plain t) :
    Plain ("\n\n".intercalate texts) := by
  induction texts with
  | nil => exact plain_empty
  | cons t ts ih =>
    obtain ⟨ht,hts⟩ := List.forall_mem_cons.mp h
    cases ts with
    | nil => simpa using ht
    | cons u ts =>
      rw [String.intercalate_cons_of_ne_nil (List.cons_ne_nil _ _)]
      exact plain_append_blank.mpr ⟨ht,ih hts⟩

lemma Preamble.plain_definitionsText {pre : Preamble} (h : ∀ d ∈ pre.definitions, Plain d.source)
    {rest : String} (hr : Plain rest) : Plain (pre.definitionsText ++ rest) := by
  have hsources := plain_intercalate_blank (List.forall_mem_map.mpr h)
  unfold Preamble.definitionsText
  split
  · exact plain_lineFeed_append.mpr hr
  · rw [String.append_assoc, String.append_assoc, plain_lineFeed_append, ← String.append_assoc]
    exact plain_append_blank.mpr ⟨hsources,hr⟩

/-- A remark makes no marker of its comment. -/
lemma plain_remark {w : String} (hw : IsRemark w) : Plain ("  // " ++ w) := by
  refine plain_of_not_isPrefix (oneLine_append.mpr ⟨by decide,hw.1⟩) ?_
  rw [String.toList_append]
  change ¬ "// ".toList ++ '@' :: "canopy-user-start".toList <+: "// ".toList ++ w.toList
  rw [List.prefix_append_right_inj]
  rintro ⟨rest,hrest⟩
  have hhead := hw.2
  rw [← hrest] at hhead
  contradiction

lemma plain_notesText {notes : List String} (h : ∀ w ∈ notes, IsRemark w) {rest : String}
    (hr : Plain rest) : Plain (notesText notes ++ rest) := by
  induction notes with
  | nil => exact hr
  | cons w notes ih =>
    obtain ⟨hw,hnotes⟩ := List.forall_mem_cons.mp h
    rw [notesText, List.map_cons, String.join_cons, String.append_assoc]
    exact plain_append_lineFeed.mpr ⟨plain_remark hw,ih hnotes⟩

lemma plain_header {o : ConvertOptions} (ho : ∀ s ∈ o.timestamp, OneLine s) :
    Plain o.header := by
  have hmark : ∃ rest, o.header = "// @g" ++ rest := by
    unfold ConvertOptions.header
    rw [String.append_assoc]
    exact ⟨"enerated by canopy" ++ _,rfl⟩
  obtain ⟨rest,hrest⟩ := hmark
  refine plain_of_not_isPrefix (oneLine_header ho) ?_
  rw [hrest, String.toList_append]
  change ¬ "// @".toList ++ "canopy-user-start".toList <+: "// @".toList ++ 'g' :: rest.toList
  rw [List.prefix_append_right_inj]
  rintro ⟨more,hmore⟩
  exact absurd (List.cons.inj hmore).1 (by decide)

/-- A preamble of plain lines. -/
structure Preamble.Proper (pre : Preamble) : Prop where
  imports : ∀ l ∈ pre.imports, Plain l
  definitions : ∀ d ∈ pre.definitions, Plain d.source
  parameters : AllOneLine pre.parameters

section
variable {o : ConvertOptions} {pre : Preamble} {m : DesignCompiler.Markup}

lemma Preamble.Proper.oneLine_parametersText (h : pre.Proper) {name : String} (hn : OneLine name) :
    OneLine (pre.parametersText o name) := by
  have hjoin : OneLine (", ".intercalate pre.parameters) :=
    oneLine_intercalate (by decide) h.parameters
  unfold Preamble.parametersText
  split
  · exact oneLine_empty
  · split <;> simp +decide only [oneLine_append, hjoin, hn, and_self]

lemma isIndent_indentUnit (o : ConvertOptions) : Section.IsIndent o.indentUnit := by
  have hspace : ∀ c ∈ List.replicate o.indent ' ', c = ' ' := fun c => List.eq_of_mem_replicate
  constructor
  · refine List.all_eq_true.mpr fun c hc => ?_
    rw [ConvertOptions.indentUnit, String.toList_ofList] at hc
    rw [hspace c hc]
    decide
  · exact oneLine_ofList.mpr fun hc => absurd (hspace _ hc) (by decide)

/-- The file of a component is plain around its two blocks. -/
lemma fileText_eq (pre : Preamble) (o : ConvertOptions) (m : DesignCompiler.Markup) :
    pre.fileText o m = (o.header ++ "\n" ++ (ofLines pre.imports ++ "\n")) ++ "\n" ++
      emptyBlock "imports" "" ++ "\n" ++
      (pre.definitionsText ++ ("export function " ++ (m.component ++ "(" ++
        pre.parametersText o m.component ++ ") \x7b"))) ++ "\n" ++
      emptyBlock "logic" "  " ++ "\n" ++
      (notesText m.notes ++ ("  return (" ++ "\n" ++ m.text o.indentUnit markupDepth ++ "\n" ++
        ("  );\n\x7d\n" ++ "\n" ++ ("export default " ++ m.component ++ ";") ++ "\n" ++ ""))) := by
  have hblank : "\n\n" = "\n" ++ "\n" := rfl
  have hbrace : ") \x7b\n" = ") \x7b" ++ "\n" := rfl
  have hreturn : "  return (\n" = "  return (" ++ "\n" := rfl
  have hclose : "\n  );\n\x7d\n\nexport default " = "\n" ++ "  );\n\x7d\n" ++ "\n" ++
    "export default " := rfl
  have hend : ";\n" = ";" ++ "\n" := rfl
  simp only [Preamble.fileText, String.join_cons, String.join_nil, String.append_empty, hblank,
    hbrace, hreturn, hclose, hend, String.append_assoc, ofLines]

/-- The markup stands on lines of its own ahead of the end of the file. -/
lemma exists_fileText_eq (pre : Preamble) (o : ConvertOptions) (m : DesignCompiler.Markup) :
    ∃ before, pre.fileText o m = before ++ "\n" ++ m.text o.indentUnit markupDepth ++
      "\n  );\n\x7d\n\nexport default " ++ m.component ++ ";\n" := by
  have hreturn : "  return (\n" = "  return (" ++ "\n" := rfl
  apply Exists.intro
  simp only [Preamble.fileText, String.join_cons, String.join_nil, String.append_empty, hreturn,
    ← String.append_assoc]
  rfl

/-- A scan of a component's file finds the two blocks. -/
theorem scan_fileText (ho : ∀ s ∈ o.timestamp, OneLine s) (hp : pre.Proper) (hm : m.Proper) :
    (scan (pre.fileText o m)).unterminated = none ∧
      (scan (pre.fileText o m)).blocks.map (fun b => (b.id,b.content)) =
        [("imports",[]),("logic",[])] := by
  rw [fileText_eq]
  have hparameters := hp.oneLine_parametersText (o := o) hm.component
  refine scan_emptyBlocks ?_ ?_ ?_ (by decide) (by decide) (by decide) (by decide)
  · rw [plain_append_lineFeed, ← String.append_empty (s := ofLines _ ++ "\n"),
      plain_append_lineFeed]
    exact ⟨plain_header ho,plain_ofLines hp.imports,plain_empty⟩
  · refine Preamble.plain_definitionsText hp.definitions (plain_append (by decide) ?_)
    simp +decide only [oneLine_append, hm.component, hparameters, and_self]
  · refine plain_notesText hm.notes ?_
    simp only [plain_append_lineFeed]
    refine ⟨⟨by decide,?_⟩,⟨by decide +kernel,?_⟩,plain_empty⟩
    · refine plain_ofLines fun l hl => ?_
      obtain ⟨hline,hleads⟩ := hm.root.lines (isIndent_indentUnit o) markupDepth l hl
      exact plain_of_leads hline hleads
    · rw [String.append_assoc]
      refine plain_append (by decide) ?_
      simp +decide only [oneLine_append, hm.component, and_self]

end

/-! ## The files of a conversion -/

section
variable {o : ConvertOptions} {d : DesignCompiler.Document} {t : Target}

lemma oneLine_paramText {p : PropDef} (hp : p.Proper) : OneLine (paramText p) := by
  have hdefault : ∀ v ∈ defaultText p, OneLine v := by
    intro v hv
    unfold defaultText at hv
    split at hv
    · nomatch hv
    · next hk => exact hp.default hk v hv
    all_goals
      obtain ⟨w,-,rfl⟩ := Option.map_eq_some_iff.mp hv
      exact Markup.oneLine_scriptString w
  unfold paramText
  split
  · next v hv => simp +decide only [oneLine_append, hp.name, hdefault v hv, and_self]
  · exact hp.name

lemma oneLine_collectionParam {c : Collection} (hc : OneLine c.name) :
    OneLine (collectionParam c) := by
  simp +decide only [collectionParam, oneLine_append, hc, Decimal.oneLine_toString, and_self]

lemma plain_styleImports (s : Scheme) {p : Progress} (hp : OneLine p.component) :
    ∀ l ∈ styleImports s p, Plain l := by
  have htheme : ∀ b : Backend, ∀ l ∈ b.themeImports, Plain l := by
    rintro (_ | _ | _ | _) <;> decide +kernel
  refine List.forall_mem_append.mpr ⟨?_,?_⟩
  · cases s.backend with
    | tailwind => exact List.forall_mem_nil _
    | cssModules =>
      refine List.forall_mem_singleton.mpr ?_
      simp only [styleSheetFile, String.append_assoc]
      refine plain_append (by decide) ?_
      simp +decide only [oneLine_append, hp, and_self]
    | styledComponents =>
      exact (by decide +kernel : ∀ l ∈ ["import styled from 'styled-components';"], Plain l)
    | emotion =>
      exact (by decide +kernel : ∀ l ∈ ["/** @jsxImportSource @emotion/react */",
        "import \x7b css \x7d from '@emotion/react';"], Plain l)
  · split
    · exact htheme _
    · exact List.forall_mem_nil _

lemma plain_importLines {m : DesignCompiler.Markup} (hm : m.Proper) {name : String}
    (hn : OneLine name) {lines : List String} (hl : ∀ l ∈ lines, Plain l) :
    ∀ l ∈ importLines o name m lines, Plain l := by
  have hfilter : ∀ p : String → Bool, ∀ l ∈ lines.filter p, Plain l :=
    fun p l h => hl l (List.mem_filter.mp h).1
  simp only [importLines, List.forall_mem_append, List.forall_mem_map, String.append_assoc]
  refine ⟨⟨⟨⟨⟨hfilter _,?_⟩,hfilter _⟩,fun c hc => ?_⟩,fun i hi => ?_⟩,?_⟩
  · exact List.forall_mem_singleton.mpr (by decide +kernel)
  · have hc := hm.components c hc
    refine plain_append (by decide) ?_
    simp +decide only [oneLine_append, hc, and_self]
  · obtain ⟨hident,hurl⟩ := hm.icons i hi
    refine plain_append (by decide) ?_
    simp +decide only [oneLine_append, hident, hurl, and_self]
  · split
    · refine List.forall_mem_singleton.mpr (plain_append (by decide) ?_)
      simp +decide only [oneLine_append, hn, and_self]
    · exact List.forall_mem_nil _

/-- What stands ahead of the markup of a target is proper when the markup is. -/
theorem Target.proper_preamble (hm : (t.built o d).2.Proper) : (t.preamble o d).Proper := by
  refine ⟨?_,hm.definitions,allOneLine_append.mpr ⟨?_,?_⟩⟩
  · refine plain_importLines hm hm.component fun l hl => ?_
    refine plain_styleImports _ ?_ l (List.mem_filter.mp hl).1
    rw [component_sheet]
    exact hm.component
  · exact List.forall_mem_map.mpr fun p hp => oneLine_paramText (worded_props _ _ _ p hp).proper
  · exact List.forall_mem_map.mpr fun c hc => oneLine_collectionParam (hm.collections c hc)

theorem Target.proper_built (ho : AllOneLine o.rawTexts) (hn : OneLine t.name)
    (hd : AllOneLine t.node.toChild.rawTexts) : (t.built o d).2.Proper := by
  obtain ⟨ho,htokens⟩ := allOneLine_append.mp ho
  obtain ⟨hbase,hassets⟩ := allOneLine_cons.mp (allOneLine_append.mp ho).2
  have hst : (Target.setting o d).Proper := ⟨htokens,hbase,hassets⟩
  have hstart : (Progress.start.beginComponent t.name).collector.Proper := allOneLine_nil
  exact Markup.proper_built hst hstart hn (proper_build (registryOf d) (some d.styles) hd)

/-- The file of a component holds one empty block for imports and one for logic and no marker
besides, when the texts that are written as they stand are each on one line. -/
theorem component_blocks {out : ConversionOutput} (ho : AllOneLine o.rawTexts)
    (hd : AllOneLine d.rawTexts) (hc : convert o d = .ok out) {f : GeneratedFile}
    (hf : f ∈ out.files) (hk : f.kind = .component) :
    (scan f.content).unterminated = none ∧
      (scan f.content).blocks.map (fun b => (b.id,b.content)) =
        [("imports",[]),("logic",[])] := by
  obtain ⟨t,ht,-,hcontent⟩ := exists_target_of_component hc hf hk
  have hname : OneLine t.name :=
    ((nodup_nameTargets _ _).2 t ht).1.notMem (by decide) (by decide)
  have hm : (t.built o d).2.Proper :=
    Target.proper_built ho hname
      (Child.allOneLine_rawTexts_of_mem_subtrees hd (mem_subtrees_of_mem_nameTargets ht))
  have htime : ∀ s ∈ o.timestamp, OneLine s := fun s hs =>
    ho s (List.mem_append_left _ (List.mem_append_left _ (Option.mem_toList.mpr hs)))
  rw [hcontent]
  exact scan_fileText htime (Target.proper_preamble hm) hm

end

/-- A text that holds a whole marker line makes no block. -/
theorem component_blocks_badge :
    let label : Attributes := { Attributes.bare "1" "Label" .text with
      characters := some "x\n// @canopy-user-start" }
    let d : DesignCompiler.Document :=
      .ofRoot ⟨Attributes.bare "0" "Badge" .component,[.node label []]⟩
    let o := ConvertOptions.standard
    AllOneLine o.rawTexts ∧ AllOneLine d.rawTexts ∧ ∃ out, convert o d = .ok out ∧
      ∃ f ∈ out.files, f.kind = .component ∧ (scan f.content).unterminated = none ∧
        (scan f.content).blocks.map (fun b => (b.id,b.content)) =
          [("imports",[]),("logic",[])] := by
  intro label d o
  have ho : AllOneLine o.rawTexts := by decide +kernel
  have hd : AllOneLine d.rawTexts := by decide +kernel
  have hfile : (convert o d).toOption.any (·.files.any (·.kind == .component)) = true := by
    decide +kernel
  refine ⟨ho,hd,?_⟩
  cases hc : convert o d with
  | error e =>
    rw [hc] at hfile
    contradiction
  | ok out =>
    rw [hc] at hfile
    obtain ⟨f,hf,hk⟩ := List.any_eq_true.mp hfile
    have hk := beq_iff_eq.mp hk
    exact ⟨out,rfl,f,hf,hk,component_blocks ho hd hc hf hk⟩

/-- The name of an icon stands in a comment as it is, so that a marker line in it opens a block that
nothing closes. -/
theorem unterminated_icon_name :
    let icon := Attributes.bare "1" "x\n// @canopy-user-start" .vector
    let d : DesignCompiler.Document :=
      .ofRoot ⟨Attributes.bare "0" "Badge" .component,[.node icon []]⟩
    let o := ConvertOptions.standard
    o.isValid = true ∧ ∃ out, convert o d = .ok out ∧
      ∃ f ∈ out.files, f.kind = .component ∧ (scan f.content).unterminated.isSome = true := by
  intro icon d o
  let t : Target := ⟨d.root,"Badge"⟩
  have hvalid : o.isValid = true := by decide +kernel
  have hok : (convert o d).isOk = true := by decide +kernel
  have hname : Naming.fresh [] (Naming.componentIdentifier "Badge") = "Badge" := by decide +kernel
  have htext : (t.built o d).2.text o.indentUnit markupDepth =
      "    <div className=\"relative\">\n      \x7b/* icon: x" ++ "\n" ++
        "// @canopy-user-start */\x7d\n    </div>" := by decide +kernel
  have ht : t ∈ nameTargets [] (targetNodes o d).1 := by
    change t ∈ [⟨d.root,Naming.fresh [] (Naming.componentIdentifier "Badge")⟩]
    rw [hname]
    exact List.mem_singleton_self t
  refine ⟨hvalid,?_⟩
  cases hc : convert o d with
  | error e =>
    rw [hc] at hok
    contradiction
  | ok out =>
    obtain ⟨f,hf,hk,-,hcontent⟩ := exists_file_of_target hc ht
    obtain ⟨before,hbefore⟩ := exists_fileText_eq (t.preamble o d) o (t.built o d).2
    have hcomponent : (t.built o d).2.component = "Badge" := rfl
    have hsplit : f.content =
        before ++ "\n" ++ "    <div className=\"relative\">\n      \x7b/* icon: x" ++ "\n" ++
          ("// @canopy-user-start */\x7d\n    </div>" ++
            ("\n  );\n\x7d\n\nexport default " ++ ("Badge" ++ ";\n"))) := by
      simp only [hcontent, hbefore, htext, hcomponent, String.append_assoc]
    refine ⟨out,rfl,f,hf,hk,?_⟩
    rw [hsplit]
    exact isSome_unterminated (by decide +kernel) (by decide +kernel)

end

end Project

end DesignCompiler
