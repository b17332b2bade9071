import DesignCompiler.Proofs.FromDesign.Detection
import DesignCompiler.Proofs.Markup.Pieces

/-! The children of a container in its markup. Every child is there once and in order, behind the
comments about it, unless a template stands for it. -/
namespace DesignCompiler.Markup
open Document

/-- An opening of an element. -/
structure Opens (keyed : Bool) (h : ElementHead) (o : Opening) : Prop where
  tag : o.tag = h.tag
  keyed : o.keyed = keyed

/-- The markup inside a container, from its children, numbered from `i` on, and what each appears
as. A comment for every warning about a child stands directly before it, and nothing is there for a
child for which a template stands. -/
def arranged (r : Option Repeat) (i : ℕ) (ps : List (Element × Jsx)) : List Jsx :=
  (ps.zipIdx i).flatMap fun ((e,j),k) =>
    if isRepeated r k then [] else e.head.remarks.warnings.map .comment ++ [j]

/-- The lines of the markup inside a container: those of what a child appears as come after a line
for every warning about it. -/
def arrangedLines (unit : String) (depth : ℕ) (r : Option Repeat) (i : ℕ)
    (ps : List (Element × Jsx)) : List String :=
  (ps.zipIdx i).flatMap fun ((e,j),k) =>
    if isRepeated r k then []
    else (e.head.remarks.warnings.map fun w =>
      indentation unit depth ++ "\x7b/* " ++ commentText w ++ " */\x7d") ++ j.lines unit depth

mutual

/-- Markup depicts an element and everything inside it. It has a key if the element is a template.
-/
inductive Depicts (st : Setting) : Bool → Element → Jsx → Prop
  | text {keyed : Bool} {h : ElementHead} {es : List Element} {o : Opening} {s : String} :
      h.kind = .text → Opens keyed h o → h.remarks.propBinding = none → h.content = some s →
      s ≠ "" → Depicts st keyed (.mk h es) (.text o (.literal s))
  /-- A text without content. -/
  | blank {keyed : Bool} {h : ElementHead} {es : List Element} {o : Opening} :
      h.kind = .text → Opens keyed h o → h.remarks.propBinding = none →
      (∀ s ∈ h.content, s = "") → Depicts st keyed (.mk h es) (.void o)
  /-- A text whose content is the value of a prop. -/
  | bound {keyed : Bool} {h : ElementHead} {es : List Element} {o : Opening} {p : String} :
      h.kind = .text → Opens keyed h o → h.remarks.propBinding = some p →
      Depicts st keyed (.mk h es) (.text o (.prop p))
  | image {keyed : Bool} {h : ElementHead} {es : List Element} {o : Opening} :
      h.kind = .image → Opens keyed h o → o.texts = imageTexts st.options h →
      Depicts st keyed (.mk h es) (.void o)
  | divider {keyed : Bool} {h : ElementHead} {es : List Element} {o : Opening} :
      h.kind = .divider → Opens keyed h o → Depicts st keyed (.mk h es) (.void o)
  | icon {keyed : Bool} {h : ElementHead} {es : List Element} {file : String} :
      h.kind = .icon → st.options.asset? h.sourceId = some file →
      Depicts st keyed (.mk h es) (.icon ⟨iconIdentifier h.name,st.options.assetUrl file⟩ keyed)
  /-- An icon without a file is a comment. -/
  | noFile {keyed : Bool} {h : ElementHead} {es : List Element} :
      h.kind = .icon → st.options.asset? h.sourceId = none →
      Depicts st keyed (.mk h es) (.comment ("icon: " ++ h.name))
  | componentInstance {keyed : Bool} {h : ElementHead} {es : List Element} {i : InstanceRef} :
      h.kind = .componentInstance → h.instanceOf = some i →
      st.registry.contains i.componentId = true →
      Depicts st keyed (.mk h es) (.component h.tag i.overrides keyed)
  /-- An instance of a component that is not known is a comment. -/
  | unknown {keyed : Bool} {h : ElementHead} {es : List Element} :
      h.kind = .componentInstance →
      (∀ i ∈ h.instanceOf, st.registry.contains i.componentId = false) →
      Depicts st keyed (.mk h es) (.comment ("missing component: " ++ h.name))
  | empty {keyed : Bool} {h : ElementHead} {o : Opening} :
      h.kind.holdsChildren = true → Opens keyed h o → Depicts st keyed (.mk h []) (.void o)
  /-- A text about which there is no comment stands on one line with its container. -/
  | inlined {keyed : Bool} {h : ElementHead} {e : Element} {o : Opening} {j : Jsx} :
      h.kind.holdsChildren = true → Opens keyed h o → e.head.kind = .text →
      e.head.remarks.warnings = [] → Depicts st false e j →
      Depicts st keyed (.mk h [e]) (.inlined o j)
  | block {keyed : Bool} {h : ElementHead} {o : Opening} {ps : List (Element × Jsx)} :
      h.kind.holdsChildren = true → Opens keyed h o →
      (∀ p ∈ ps.zipIdx, isRepeated (repetition? h) p.2 = false →
        Appears st (repetition? h) p.2 p.1.1 p.1.2) →
      (∀ unit depth, Jsx.allLines unit depth (arranged (repetition? h) 0 ps) =
        arrangedLines unit depth (repetition? h) 0 ps) →
      Depicts st keyed (.mk h (ps.map (·.1))) (.block o (arranged (repetition? h) 0 ps))

/-- A child with a number appears as its own markup, or as a collection with as many members as are
repeated if it is the template. -/
inductive Appears (st : Setting) : Option Repeat → ℕ → Element → Jsx → Prop
  | child {r : Option Repeat} {i : ℕ} {e : Element} {j : Jsx} :
      isTemplate r i = false → Depicts st false e j → Appears st r i e j
  | template {r : Repeat} {e : Element} {c : Collection} {j : Jsx} :
      c.count = r.members.length → Depicts st true e j →
      Appears st (some r) r.template e (.each c j)

end

section
variable {st : Setting}

lemma opens_openElement (st : Setting) (b : Building) (keyed : Bool) (h : ElementHead)
    (texts : List (String × String)) : Opens keyed h (openElement st b keyed h texts).2 := ⟨rfl,rfl⟩

/-- Wherever the building stands, the markup of an element depicts it. -/
def MarkupDepicts (st : Setting) (e : Element) : Prop :=
  ∀ (b : Building) (keyed : Bool), Depicts st keyed e (markup st b keyed e).2

lemma exists_of_standsOnOneLine {es : List Element} (h : standsOnOneLine es = true) :
    ∃ e, es = [e] ∧ e.head.kind = .text ∧ e.head.remarks.warnings = [] := by
  unfold standsOnOneLine at h
  split at h
  case h_1 h' es' =>
    obtain ⟨hkind,hwarnings⟩ := Bool.and_eq_true_iff.mp h
    exact ⟨_,rfl,beq_iff_eq.mp hkind,List.isEmpty_iff.mp hwarnings⟩
  case h_2 => nomatch h

lemma isTemplate_eq_true {r : Option Repeat} {i : ℕ} (h : isTemplate r i = true) :
    ∃ t, r = some t ∧ i = t.template := by
  cases r with
  | none => nomatch h
  | some t => exact ⟨t,rfl,beq_iff_eq.mp h⟩

/-- A child has the comments about it and one item, or nothing if a template stands for it. -/
lemma childMarkup_arranged {e : Element} (he : MarkupDepicts st e) (b : Building)
    (r : Option Repeat) (i : ℕ) :
    ∃ j, (childMarkup st b r i e).2 =
      (if isRepeated r i then [] else e.head.remarks.warnings.map .comment ++ [j]) ∧
      (isRepeated r i = false → Appears st r i e j) := by
  rw [childMarkup_eq]
  split_ifs with hr ht
  · exact ⟨.comment "",rfl,fun h => absurd (hr.symm.trans h) (by decide)⟩
  · obtain ⟨t,rfl,rfl⟩ := isTemplate_eq_true ht
    exact ⟨_,rfl,fun _ => .template rfl (he _ true)⟩
  · exact ⟨_,rfl,fun _ => .child (eq_false_of_ne_true ht) (he b false)⟩

lemma childrenMarkup_arranged {es : List Element} (hes : ∀ e ∈ es, MarkupDepicts st e)
    (b : Building) (r : Option Repeat) (i : ℕ) :
    ∃ ps : List (Element × Jsx), ps.map (·.1) = es ∧
      (childrenMarkup st b r i es).2 = arranged r i ps ∧
      ∀ p ∈ ps.zipIdx i, isRepeated r p.2 = false → Appears st r p.2 p.1.1 p.1.2 := by
  induction es generalizing b i with
  | nil => exact ⟨[],rfl,rfl,List.forall_mem_nil _⟩
  | cons e es ih =>
    obtain ⟨he,hes⟩ := List.forall_mem_cons.mp hes
    obtain ⟨j,hj,happears⟩ := childMarkup_arranged he b r i
    obtain ⟨ps,rfl,hjs,hps⟩ := ih hes (childMarkup st b r i e).1 (i+1)
    refine ⟨(e,j) :: ps,rfl,?_,?_⟩
    · rw [childrenMarkup_cons, hj, hjs]
      rfl
    · rw [List.zipIdx_cons]
      exact List.forall_mem_cons.mpr ⟨happears,hps⟩

/-- The lines inside a container are those of what its children appear as, with the comments about
each ahead of them. -/
theorem allLines_arranged (unit : String) (depth : ℕ) (r : Option Repeat) (i : ℕ)
    (ps : List (Element × Jsx)) :
    Jsx.allLines unit depth (arranged r i ps) = arrangedLines unit depth r i ps := by
  rw [allLines_eq_flatMap, arranged, arrangedLines, List.flatMap_assoc]
  refine List.flatMap_congr fun ⟨⟨e,j⟩,k⟩ _ => ?_
  have hcomment : ∀ w, (Jsx.comment w).lines unit depth =
      [indentation unit depth ++ "\x7b/* " ++ commentText w ++ " */\x7d"] := fun w => by
    rw [Jsx.lines, commentMarkup]
    simp only [String.append_assoc]
  dsimp only
  split_ifs
  · rfl
  · rw [List.flatMap_append, List.flatMap_map, List.flatMap_singleton]
    simp only [hcomment]
    rw [← List.map_eq_flatMap]

lemma depicts_textMarkup {keyed : Bool} {h : ElementHead} {o : Opening} (hk : h.kind = .text)
    (ho : Opens keyed h o) (es : List Element) :
    Depicts st keyed (.mk h es) (textMarkup o (contentOf h)) := by
  unfold contentOf
  cases hp : h.remarks.propBinding with
  | some p => exact .bound hk ho hp
  | none =>
    cases hc : h.content with
    | none => exact .blank hk ho hp (by simp [hc])
    | some s =>
      by_cases hs : s = ""
      · rw [hs]
        exact .blank hk ho hp (by simp [hc, hs])
      · have htext : textMarkup o (.literal s) = .text o (.literal s) := by simp [textMarkup, hs]
        dsimp only [Option.getD_some]
        rw [htext]
        exact .text hk ho hp hc hs

lemma depicts_iconMarkup {h : ElementHead} (hk : h.kind = .icon) (keyed : Bool)
    (es : List Element) : Depicts st keyed (.mk h es) (iconMarkup st.options keyed h) := by
  unfold iconMarkup
  split
  · next file hfile => exact .icon hk hfile
  · next hfile => exact .noFile hk hfile

lemma depicts_instanceMarkup {h : ElementHead} (hk : h.kind = .componentInstance) (keyed : Bool)
    (es : List Element) : Depicts st keyed (.mk h es) (instanceMarkup st.registry keyed h) := by
  unfold instanceMarkup
  split
  · next i hi =>
    obtain ⟨hi,hknown⟩ := Option.filter_eq_some_iff.mp hi
    exact .componentInstance hk hi hknown
  · next hnone =>
    refine .unknown hk fun i hi => ?_
    rw [Option.filter_eq_none_iff] at hnone
    exact eq_false_of_ne_true (hnone i hi)

/-- The markup of every element depicts its tree. -/
theorem depicts_markup (st : Setting) (e : Element) : MarkupDepicts st e := by
  induction e with
  | mk h es ih =>
    intro b keyed
    have ho := opens_openElement st b keyed h
    rw [markup]
    cases hk : h.kind
    case text => exact depicts_textMarkup hk (ho []) es
    case image => exact .image hk (ho _) rfl
    case divider => exact .divider hk (ho [])
    case icon => exact depicts_iconMarkup hk keyed es
    case componentInstance => exact depicts_instanceMarkup hk keyed es
    case container | component =>
      have hholds : h.kind.holdsChildren = true := by rw [hk]; rfl
      obtain ⟨ps,hps,hjs,happear⟩ :=
        childrenMarkup_arranged ih (openElement st b keyed h []).1 (repetition? h) 0
      dsimp only
      split_ifs with hnil hline
      · obtain rfl := List.isEmpty_iff.mp hnil
        exact .empty hholds (ho [])
      · obtain ⟨e,rfl,htext,hwarnings⟩ := exists_of_standsOnOneLine hline
        exact .inlined hholds (ho []) htext hwarnings (ih e (List.mem_singleton_self e) _ false)
      · rw [hjs, ← hps]
        exact .block hholds (ho []) happear fun unit depth => allLines_arranged unit depth _ 0 ps

end

/-- The markup of a component, which is written in pieces, depicts its tree. Every container has
each of its children once and in order, the comments about it ahead of it; the children that repeat
have one template instead, for a collection of as many members, and are those that were detected.
The remarks about the root, which no comment can precede, are the notes. -/
theorem build_depicts (st : Setting) (p : Styling.Progress) (component : String)
    (registry : ComponentRegistry) (styles : Option (List (String × StyleMeta))) (n : Node) :
    let root := (FromDesign.build registry styles n).1
    let m := (build st p component root).2
    m.IsWritten ∧ Depicts st false root m.root ∧ m.notes = root.head.remarks.warnings ∧
      ∀ e ∈ root.subtrees, repetition? e.head = FromDesign.detectRepetition e.children ∧
        ∀ r ∈ repetition? e.head, FromDesign.IsRepetition e.children.length r := by
  intro root m
  refine ⟨isWritten m,depicts_markup st root _ false,rfl,fun e he => ?_⟩
  have hmarked := FromDesign.repetition?_build registry styles n e he
  refine ⟨hmarked,fun r hr => ?_⟩
  rw [hmarked] at hr
  exact FromDesign.isRepetition_of_detectRepetition hr

/-- A menu with a title and three entries, of which the first is the template. The remark about that
stands ahead of the collection. -/
theorem build_depicts_menu :
    let entry (id name : String) : Child := .node (.bare id name .frame) []
    let title : Attributes := { Attributes.bare "1" "Title" .text with characters := some "Go to" }
    let n : Node := ⟨.bare "0" "Menu" .component,[.node title [],entry "2" "Dropdown 1",
      entry "3" "Dropdown 2",entry "4" "Dropdown 3"]⟩
    let st : Setting := ⟨⟨.cssModules,false,.standard⟩,.empty,.standard⟩
    let root := (FromDesign.build .empty none n).1
    let m := (build st .start "Menu" root).2
    Depicts st false root m.root ∧ repetition? root.head = some ⟨1,[1,2,3]⟩ ∧
      m.collections = [⟨"dropdownItems",3⟩] ∧
      m.notes = ["no auto-layout, review responsiveness"] ∧
      m.text "  " 0 = "<div className=\x7bstyles.menu\x7d>\n" ++
        "  <h2 className=\x7bstyles.title\x7d>Go to</h2>\n" ++
        "  \x7b/* interactive behavior likely needed (dropdown) */\x7d\n" ++
        "  \x7bdropdownItems.map((item, index) => (\n" ++
        "    <div key=\x7bindex\x7d className=\x7bstyles.dropdown1\x7d />\n" ++
        "  ))\x7d\n" ++
        "</div>" := by
  intro entry title n st root m
  obtain ⟨-,hdepicts,hnotes,-⟩ := build_depicts st .start "Menu" .empty none n
  refine ⟨hdepicts,by decide +kernel,by decide +kernel,?_,by decide +kernel⟩
  rw [hnotes]
  decide +kernel

end DesignCompiler.Markup
