import DesignCompiler.Proofs.Styling.Collector
import DesignCompiler.Styling.Styler
import Mathlib.Data.List.Forall2

/-! Styling by definitions. A log of the elements that have been styled, each with the name it was
given, says what a collector holds; styling further elements makes the log longer. -/
namespace DesignCompiler.Styling
open StyleCollector

namespace Scheme

/-- Whether an element needs a style. -/
def declares (s : Scheme) (h : ElementHead) : Bool := !(declarations s.tokens h).1.isEmpty

/-- The source of an element's definition under a name. -/
def source (s : Scheme) (h : ElementHead) (name : String) : String :=
  definitionSource s.backend s.tokenStyle name h (declarations s.tokens h).1

end Scheme

section
variable {s : Scheme} {p : Progress} {h : ElementHead}

lemma styleByDefinition_plain (hd : s.declares h = false) :
    (styleByDefinition s p h).1.collector = p.collector ∧
      (styleByDefinition s p h).2 = .plain := by
  have he : (declarations s.tokens h).1.isEmpty = true := by simpa [Scheme.declares] using hd
  unfold styleByDefinition
  dsimp only
  rw [if_pos he]
  exact ⟨rfl,rfl⟩

lemma styleByDefinition_declared (hd : s.declares h = true) :
    let r := p.collector.reserve h.id (wantedName s.backend h)
    (styleByDefinition s p h).1.collector = r.1.insert r.2 (s.source h r.2) ∧
      (styleByDefinition s p h).2 = useOf s.backend r.2 (s.source h r.2) := by
  have he : ¬ (declarations s.tokens h).1.isEmpty = true := by simpa [Scheme.declares] using hd
  unfold styleByDefinition
  dsimp only
  rw [if_neg he]
  exact ⟨rfl,rfl⟩

lemma styleElement_of_ne_tailwind (hb : s.backend ≠ .tailwind) :
    styleElement s p h = styleByDefinition s p h := by
  unfold styleElement
  split
  · contradiction
  · rfl

lemma component_styleByDefinition (s : Scheme) (p : Progress) (h : ElementHead) :
    (styleByDefinition s p h).1.component = p.component := by
  unfold styleByDefinition
  dsimp only
  split <;> rfl

lemma component_styleElement (s : Scheme) (p : Progress) (h : ElementHead) :
    (styleElement s p h).1.component = p.component := by
  unfold styleElement
  split
  · rfl
  · exact component_styleByDefinition s p h

lemma styleElement_cases (s : Scheme) (p : Progress) (h : ElementHead) :
    (styleElement s p h).2 = .plain ∨ (∃ cs, (styleElement s p h).2 = .classes cs) ∨
      s.declares h = true ∧ s.backend ≠ .tailwind ∧
        ∃ name, (styleElement s p h).2 = useOf s.backend name (s.source h name) := by
  by_cases hb : s.backend = .tailwind
  · simp only [styleElement, hb, styleByClasses]
    split
    · exact .inl rfl
    · exact .inr (.inl ⟨_,rfl⟩)
  · rw [styleElement_of_ne_tailwind hb]
    cases hd : s.declares h with
    | false => exact .inl (styleByDefinition_plain hd).2
    | true => exact .inr (.inr ⟨rfl,hb,_,(styleByDefinition_declared hd).2⟩)

theorem sound_styleByDefinition (hc : p.collector.Sound) :
    (styleByDefinition s p h).1.collector.Sound := by
  cases hd : s.declares h with
  | false =>
    rw [(styleByDefinition_plain hd).1]
    exact hc
  | true =>
    rw [(styleByDefinition_declared hd).1]
    exact hc.define _ _ _

end

/-- Elements that have been styled, each with its name. -/
abbrev StyleLog := List (ElementHead × String)

/-- A collector holds the definitions and the names of a log, in which no two elements have one
identity or one name. -/
structure Records (s : Scheme) (c : StyleCollector) (log : StyleLog) : Prop where
  definitions : c.definitions = log.map fun e => (e.2,s.source e.1 e.2)
  assigned : c.assigned = log.map fun e => (e.1.id,e.2)
  ids : (log.map (·.1.id)).Nodup
  names : (log.map (·.2)).Nodup
  declared : ∀ e ∈ log, s.declares e.1 = true

namespace Records
variable {s : Scheme} {c : StyleCollector} {log : StyleLog} {h : ElementHead} {name : String}

lemma empty (s : Scheme) : Records s .empty [] :=
  ⟨rfl,rfl,List.nodup_nil,List.nodup_nil,fun _ he => nomatch he⟩

lemma nameFor?_of_mem (hr : Records s c log) (he : (h,name) ∈ log) :
    c.nameFor? h.id = some name := by
  rw [nameFor?, hr.assigned]
  refine Json.Decoder.lookup_of_mem ?_ (List.mem_map_of_mem (f := fun e => (e.1.id,e.2)) he)
  rw [List.map_map]
  exact hr.ids

lemma get?_of_mem (hr : Records s c log) (he : (h,name) ∈ log) :
    c.get? name = some (s.source h name) := by
  rw [get?, hr.definitions]
  refine Json.Decoder.lookup_of_mem ?_
    (List.mem_map_of_mem (f := fun e => (e.2,s.source e.1 e.2)) he)
  rw [List.map_map]
  exact hr.names

lemma nameFor?_eq_none_iff (hr : Records s c log) (id : String) :
    c.nameFor? id = none ↔ id ∉ log.map (·.1.id) := by
  rw [nameFor?, hr.assigned, Json.Decoder.lookup_eq_none_iff, List.map_map]
  rfl

/-- Styling an element that has no name yet adds it to the log under a name of its own. -/
lemma define {p : Progress} (hr : Records s p.collector log)
    (hid : h.id ∉ log.map (·.1.id)) (hd : s.declares h = true) :
    ∃ name, Records s (styleByDefinition s p h).1.collector (log ++ [(h,name)]) ∧
      (styleByDefinition s p h).2 = useOf s.backend name (s.source h name) := by
  have hn := (hr.nameFor?_eq_none_iff h.id).mpr hid
  have hfresh := Naming.fresh_not_mem p.collector.usedNames (wantedName s.backend h)
  obtain ⟨hc,hu⟩ := styleByDefinition_declared (p := p) hd
  rw [reserve_of_unnamed hn] at hc hu
  generalize Naming.fresh p.collector.usedNames (wantedName s.backend h) = name at hc hu hfresh
  rw [usedNames, List.mem_append, not_or] at hfresh
  have hnames : name ∉ log.map (·.2) := by
    rw [hr.assigned, List.map_map] at hfresh
    exact hfresh.2
  -- no definition and no element has the name, so both tables grow at their ends
  refine ⟨name,⟨?_,?_,?_,?_,?_⟩,hu⟩
  · rw [hc, StyleCollector.insert, Json.Decoder.putEntry_of_not_mem hfresh.1, hr.definitions,
      List.map_append]
    rfl
  · rw [hc, StyleCollector.insert, hr.assigned, List.map_append]
    rfl
  · exact Json.Decoder.nodup_map_concat.mpr ⟨hid,hr.ids⟩
  · exact Json.Decoder.nodup_map_concat.mpr ⟨hnames,hr.names⟩
  · intro e he
    obtain he | he := List.mem_append.mp he
    · exact hr.declared e he
    · rw [List.mem_singleton.mp he]
      exact hd

end Records

/-- The style that an element has by a log. -/
inductive TakesStyle (s : Scheme) (log : StyleLog) (h : ElementHead) : StyleUse → Prop
  | plain : s.declares h = false → TakesStyle s log h .plain
  | defined {name : String} : s.declares h = true → (h,name) ∈ log →
      TakesStyle s log h (useOf s.backend name (s.source h name))

lemma TakesStyle.append {s : Scheme} {log : StyleLog} {h : ElementHead} {u : StyleUse}
    (ht : TakesStyle s log h u) (more : StyleLog) : TakesStyle s (log ++ more) h u := by
  cases ht with
  | plain hd => exact .plain hd
  | defined hd he => exact .defined hd (List.mem_append_left more he)

section
variable {s : Scheme} {p : Progress} {log : StyleLog} {h : ElementHead} {hs : List ElementHead}

/-- The log grows by the element, if that needs a style. -/
theorem Records.styleByDefinition (hr : Records s p.collector log) (hid : h.id ∉ log.map (·.1.id)) :
    ∃ more : StyleLog, more.map (·.1) = [h].filter s.declares ∧
      Records s (styleByDefinition s p h).1.collector (log ++ more) ∧
      TakesStyle s (log ++ more) h (styleByDefinition s p h).2 := by
  cases hd : s.declares h with
  | false =>
    obtain ⟨hc,hu⟩ := styleByDefinition_plain (p := p) hd
    rw [hc, hu]
    refine ⟨[],by simp [hd],?_,.plain hd⟩
    rw [List.append_nil]
    exact hr
  | true =>
    obtain ⟨name,hlog,hu⟩ := hr.define hid hd
    rw [hu]
    exact ⟨[(h,name)],by simp [hd],hlog,.defined hd (by simp)⟩

lemma not_mem_ids_append {q : ElementHead → Bool} {more : StyleLog} {g : ElementHead}
    (hg : g.id ∉ log.map (·.1.id)) (hne : h.id ≠ g.id) (hm : more.map (·.1) = [h].filter q) :
    g.id ∉ (log ++ more).map (·.1.id) := by
  rw [List.map_append, List.mem_append, not_or]
  refine ⟨hg,?_⟩
  rw [List.mem_map]
  rintro ⟨e,he,hid⟩
  have hmem : e.1 ∈ [h].filter q := hm ▸ List.mem_map_of_mem he
  rw [List.mem_singleton.mp (List.mem_of_mem_filter hmem)] at hid
  exact hne hid

/-- Style elements one after the other. -/
def styleAll (s : Scheme) (p : Progress) : List ElementHead → Progress × List StyleUse
  | [] => (p,[])
  | h :: hs =>
    let (p,u) := styleElement s p h
    let (p,us) := styleAll s p hs
    (p,u :: us)

lemma styleAll_append (s : Scheme) (p : Progress) (hs hs' : List ElementHead) :
    styleAll s p (hs ++ hs') =
      ((styleAll s (styleAll s p hs).1 hs').1,
        (styleAll s p hs).2 ++ (styleAll s (styleAll s p hs).1 hs').2) := by
  induction hs generalizing p with
  | nil => rfl
  | cons h hs ih => simp only [List.cons_append, styleAll, ih]

lemma component_styleAll (s : Scheme) (p : Progress) (hs : List ElementHead) :
    (styleAll s p hs).1.component = p.component := by
  induction hs generalizing p with
  | nil => rfl
  | cons h hs ih => exact (ih _).trans (component_styleElement s p h)

lemma exists_of_mem_styleAll {u : StyleUse} (hu : u ∈ (styleAll s p hs).2) :
    ∃ h ∈ hs, ∃ p', u = (styleElement s p' h).2 := by
  induction hs generalizing p with
  | nil => nomatch hu
  | cons h hs ih =>
    obtain rfl | hu := List.mem_cons.mp hu
    · exact ⟨h,List.mem_cons_self,p,rfl⟩
    · obtain ⟨g,hg,hgu⟩ := ih hu
      exact ⟨g,List.mem_cons_of_mem h hg,hgu⟩

theorem sound_styleAll (hb : s.backend ≠ .tailwind) (hc : p.collector.Sound)
    (hs : List ElementHead) : (styleAll s p hs).1.collector.Sound := by
  induction hs generalizing p with
  | nil => exact hc
  | cons h hs ih =>
    rw [styleAll, styleElement_of_ne_tailwind hb]
    exact ih (sound_styleByDefinition hc)

/-- Styling elements of different identities that have no names yet adds those that need a style to
the log, in order, and each has the style that the log says. -/
theorem Records.styleAll (hb : s.backend ≠ .tailwind) (hr : Records s p.collector log)
    (hnew : ∀ h ∈ hs, h.id ∉ log.map (·.1.id)) (hids : (hs.map (·.id)).Nodup) :
    ∃ more : StyleLog, more.map (·.1) = hs.filter s.declares ∧
      Records s (styleAll s p hs).1.collector (log ++ more) ∧
      List.Forall₂ (TakesStyle s (log ++ more)) hs (styleAll s p hs).2 := by
  induction hs generalizing p log with
  | nil => exact ⟨[],rfl,by rwa [List.append_nil],.nil⟩
  | cons h hs ih =>
    obtain ⟨hh,hhs⟩ := List.forall_mem_cons.mp hnew
    rw [List.map_cons, List.nodup_cons] at hids
    obtain ⟨first,hfirst,hr,ht⟩ := hr.styleByDefinition hh
    rw [← styleElement_of_ne_tailwind hb] at hr ht
    have hnew' : ∀ g ∈ hs, g.id ∉ (log ++ first).map (·.1.id) := fun g hg =>
      not_mem_ids_append (hhs g hg) (fun he => hids.1 (he ▸ List.mem_map_of_mem hg)) hfirst
    obtain ⟨more,hmore,hr,hts⟩ := ih hr hnew' hids.2
    rw [List.append_assoc] at hr hts
    refine ⟨first ++ more,?_,hr,.cons ?_ hts⟩
    · rw [List.map_append, hfirst, hmore, ← List.filter_append]
      rfl
    · rw [← List.append_assoc]
      exact ht.append more

/-! ## Style sheets -/

/-- The rule of an element by a log. -/
def TakesRule (s : Scheme) (log : StyleLog) (h : ElementHead) (rule : String) : Prop :=
  ∃ name, (h,name) ∈ log ∧ rule = s.source h name

lemma TakesRule.append {rule : String} (ht : TakesRule s log h rule) (more : StyleLog) :
    TakesRule s (log ++ more) h rule := by
  obtain ⟨name,he,hrule⟩ := ht
  exact ⟨name,List.mem_append_left more he,hrule⟩

/-- The state in which the rule of an element is looked up: an element without a name is styled
first. -/
def beforeRule (s : Scheme) (p : Progress) (h : ElementHead) : Progress :=
  if (p.collector.nameFor? h.id).isSome then p else (styleByDefinition s p h).1

/-- The rule that a collector has for an element. -/
def ruleFor? (c : StyleCollector) (h : ElementHead) : Option String :=
  (c.nameFor? h.id).bind c.get?

lemma collectRules_cons (s : Scheme) (p : Progress) (h : ElementHead) (hs : List ElementHead) :
    collectRules s p (h :: hs) =
      ((collectRules s (beforeRule s p h) hs).1,
        (ruleFor? (beforeRule s p h).collector h).toList ++
          (collectRules s (beforeRule s p h) hs).2) := rfl

lemma component_beforeRule (s : Scheme) (p : Progress) (h : ElementHead) :
    (beforeRule s p h).component = p.component := by
  unfold beforeRule
  split
  · rfl
  · exact component_styleByDefinition s p h

lemma component_collectRules (s : Scheme) (p : Progress) (hs : List ElementHead) :
    (collectRules s p hs).1.component = p.component := by
  induction hs generalizing p with
  | nil => rfl
  | cons h hs ih => exact (ih _).trans (component_beforeRule s p h)

lemma component_styleSheet (s : Scheme) (p : Progress) (trees : List Element) :
    (styleSheet s p trees).1.component = p.component := by
  unfold styleSheet
  split
  · exact component_collectRules s p _
  · rfl

lemma sound_beforeRule (hc : p.collector.Sound) (h : ElementHead) :
    (beforeRule s p h).collector.Sound := by
  unfold beforeRule
  split
  · exact hc
  · exact sound_styleByDefinition hc

lemma isSome_ruleFor?_beforeRule (hc : p.collector.Sound) (hd : s.declares h = true) :
    (ruleFor? (beforeRule s p h).collector h).isSome = true := by
  obtain ⟨name,hname⟩ : ∃ name, (beforeRule s p h).collector.nameFor? h.id = some name := by
    unfold beforeRule
    split
    · next hn => exact Option.isSome_iff_exists.mp hn
    · rw [(styleByDefinition_declared hd).1]
      change ∃ name, (p.collector.reserve _ _).1.nameFor? h.id = some name
      rw [nameFor?_reserve, if_pos rfl]
      exact ⟨_,rfl⟩
  rw [ruleFor?, hname, Option.bind_some]
  exact sound_beforeRule hc h h.id name hname

lemma collectRules_ne_nil (hc : p.collector.Sound) (hh : h ∈ hs) (hd : s.declares h = true) :
    (collectRules s p hs).2 ≠ [] := by
  induction hs generalizing p with
  | nil => nomatch hh
  | cons g hs ih =>
    rw [collectRules_cons]
    obtain rfl | hh := List.mem_cons.mp hh
    · obtain ⟨rule,hrule⟩ := Option.isSome_iff_exists.mp (isSome_ruleFor?_beforeRule hc hd)
      simp [hrule]
    · exact List.append_ne_nil_of_right_ne_nil _ (ih (sound_beforeRule hc g) hh)

/-- There is a style sheet as soon as one element needs a style, whatever their identities. -/
theorem isSome_styleSheet {trees : List Element} (hb : s.backend = .cssModules)
    (hc : p.collector.Sound) (hh : h ∈ trees.flatMap Element.walk) (hd : s.declares h = true) :
    (styleSheet s p trees).2.isSome = true := by
  have hs : s.hasStyleSheet = true := beq_iff_eq.mpr hb
  unfold styleSheet
  rw [if_pos hs]
  dsimp only
  rw [if_neg (mt List.isEmpty_iff.mp (collectRules_ne_nil hc hh hd))]
  rfl

/-- An element that is in the log has its rule, and one that needs none has none. -/
lemma Records.takesRule {c : StyleCollector} (hr : Records s c log)
    (hk : h ∈ log.map (·.1) ∨ s.declares h = false ∧ h.id ∉ log.map (·.1.id)) :
    List.Forall₂ (TakesRule s log) ([h].filter s.declares) (ruleFor? c h).toList := by
  rw [List.filter_singleton, ruleFor?]
  obtain hk | ⟨hd,hid⟩ := hk
  · obtain ⟨⟨h,name⟩,he,rfl⟩ := List.mem_map.mp hk
    rw [hr.declared _ he, hr.nameFor?_of_mem he, Option.bind_some, hr.get?_of_mem he]
    exact .cons ⟨name,he,rfl⟩ .nil
  · rw [hd, (hr.nameFor?_eq_none_iff h.id).mpr hid]
    exact .nil

/-- An element that is in the log or new to it has its rule after the step, if it needs one. -/
theorem Records.beforeRule (hr : Records s p.collector log)
    (hk : h ∈ log.map (·.1) ∨ h.id ∉ log.map (·.1.id)) :
    ∃ more : StyleLog, (∃ q, more.map (·.1) = [h].filter q) ∧
      Records s (beforeRule s p h).collector (log ++ more) ∧
      List.Forall₂ (TakesRule s (log ++ more)) ([h].filter s.declares)
        (ruleFor? (beforeRule s p h).collector h).toList := by
  unfold Styling.beforeRule
  obtain hk | hid := hk
  · obtain ⟨⟨h,name⟩,he,rfl⟩ := List.mem_map.mp hk
    rw [if_pos (by rw [hr.nameFor?_of_mem he]; rfl)]
    rw [← List.append_nil log] at hr hk
    exact ⟨[],⟨fun _ => false,rfl⟩,hr,hr.takesRule (.inl hk)⟩
  · rw [if_neg (by rw [(hr.nameFor?_eq_none_iff h.id).mpr hid]; exact Bool.false_ne_true)]
    obtain ⟨more,hmore,hr,-⟩ := hr.styleByDefinition hid
    refine ⟨more,⟨s.declares,hmore⟩,hr,hr.takesRule ?_⟩
    rw [List.filter_singleton] at hmore
    cases hd : s.declares h with
    | false =>
      rw [hd] at hmore
      rw [List.map_eq_nil_iff.mp hmore, List.append_nil]
      exact .inr ⟨rfl,hid⟩
    | true =>
      rw [List.map_append, hmore, hd]
      exact .inl (List.mem_append_right _ (List.mem_singleton_self h))

/-- The rules of some elements are those of the ones that need a style, in order, whether they have
been styled before or are new. -/
theorem Records.collectRules (hr : Records s p.collector log)
    (hk : ∀ h ∈ hs, h ∈ log.map (·.1) ∨ h.id ∉ log.map (·.1.id)) (hids : (hs.map (·.id)).Nodup) :
    ∃ more : StyleLog, Records s (collectRules s p hs).1.collector (log ++ more) ∧
      List.Forall₂ (TakesRule s (log ++ more)) (hs.filter s.declares) (collectRules s p hs).2 := by
  induction hs generalizing p log with
  | nil => exact ⟨[],by rwa [List.append_nil],.nil⟩
  | cons h hs ih =>
    obtain ⟨hh,hhs⟩ := List.forall_mem_cons.mp hk
    rw [List.map_cons, List.nodup_cons] at hids
    obtain ⟨first,⟨q,hfirst⟩,hr,ht⟩ := hr.beforeRule hh
    have hk' : ∀ g ∈ hs, g ∈ (log ++ first).map (·.1) ∨ g.id ∉ (log ++ first).map (·.1.id) := by
      intro g hg
      apply (hhs g hg).imp
      · intro hmem
        rw [List.map_append]
        exact List.mem_append_left _ hmem
      · intro hnew
        exact not_mem_ids_append hnew (fun he => hids.1 (he ▸ List.mem_map_of_mem hg)) hfirst
    obtain ⟨more,hr,hts⟩ := ih hr hk' hids.2
    rw [List.append_assoc] at hr hts
    refine ⟨first ++ more,hr,?_⟩
    rw [← List.singleton_append, List.filter_append, List.singleton_append, collectRules_cons]
    refine List.rel_append ?_ hts
    rw [← List.append_assoc]
    exact ht.imp fun _ _ h => h.append more

lemma mem_log_or_new (hids : (hs.map (·.id)).Nodup) (hlog : ∀ g ∈ log.map (·.1), g ∈ hs)
    (hh : h ∈ hs) : h ∈ log.map (·.1) ∨ h.id ∉ log.map (·.1.id) := by
  by_cases hm : h.id ∈ log.map (·.1.id)
  · obtain ⟨e,he,hid⟩ := List.mem_map.mp hm
    have hmem : e.1 ∈ log.map (·.1) := List.mem_map_of_mem he
    rw [List.inj_on_of_nodup_map hids (hlog _ hmem) hh hid] at hmem
    exact .inl hmem
  · exact .inr hm

/-- A style sheet holds the rules of the elements in some trees that need a style, in order. Schemes
without style sheets leave the log as it is. -/
theorem Records.styleSheet {trees : List Element} (hr : Records s p.collector log)
    (hk : ∀ h ∈ trees.flatMap Element.walk, h ∈ log.map (·.1) ∨ h.id ∉ log.map (·.1.id))
    (hids : ((trees.flatMap Element.walk).map (·.id)).Nodup) :
    ∃ (more : StyleLog) (rules : List String),
      Records s (styleSheet s p trees).1.collector (log ++ more) ∧
      (s.backend = .cssModules →
        (styleSheet s p trees).2 =
            (if rules.isEmpty then none else some ("\n".intercalate rules)) ∧
          List.Forall₂ (TakesRule s (log ++ more))
            ((trees.flatMap Element.walk).filter s.declares) rules) := by
  unfold Styling.styleSheet
  by_cases hs : s.hasStyleSheet = true
  · rw [if_pos hs]
    obtain ⟨more,hr,ht⟩ := hr.collectRules hk hids
    exact ⟨more,_,hr,fun _ => ⟨rfl,ht⟩⟩
  · rw [if_neg hs]
    refine ⟨[],[],by rwa [List.append_nil],?_⟩
    intro hb
    exact absurd (beq_iff_eq.mpr hb) hs

end

end DesignCompiler.Styling
