import DesignCompiler.Proofs.Styling.Hits
import DesignCompiler.Proofs.Styling.Sources

/-! Styling with a theme beside styling without one. Both go through the same calls; their states
and their answers are related step by step, and are told apart only where a token is written. -/
namespace DesignCompiler.Styling
open Tokens StyleCollector

/-! ## Values that differ at tokens -/

/-- Two texts of a value with some parts. They are the same except at the tokens among the parts: at
each the first has the value of the token, and the second refers to it. -/
inductive SameButHits (s : TokenStyle) : List ValuePart → String → String → Prop
  | nil : SameButHits s [] "" ""
  | text (text : String) {ps : List ValuePart} {x y : String} : SameButHits s ps x y →
      SameButHits s (.text text :: ps) (text ++ x) (text ++ y)
  | raw (css : String) {ps : List ValuePart} {x y : String} : SameButHits s ps x y →
      SameButHits s (.token (.raw css) :: ps) (css ++ x) (css ++ y)
  | hit (path : TokenPath) (css : String) {ps : List ValuePart} {x y : String} :
      SameButHits s ps x y → SameButHits s (.token (.token path css) :: ps) (css ++ x)
        (s.render (.token path css) ++ y)

/-- A declaration whose tokens are matched in the table, and whose value differs at most at these
from the value that it has without a theme. -/
structure Declaration.Agrees (t : TokenTable) (s : TokenStyle) (d : Declaration) : Prop where
  matched : ∀ v ∈ d.tokens, Matched t v
  values : SameButHits s d.parts (d.value .literal) (d.value s)

lemma sameButHits_value (s : TokenStyle) (d : Declaration) :
    SameButHits s d.parts (d.value .literal) (d.value s) := by
  obtain ⟨property,parts⟩ := d
  unfold Declaration.value
  dsimp only
  induction parts with
  | nil => exact .nil
  | cons part parts ih =>
    rw [List.map_cons, List.map_cons, String.join_cons, String.join_cons]
    cases part with
    | text text => exact .text text ih
    | token v =>
      cases v with
      | raw css => exact .raw css ih
      | token path css => exact .hit path css ih

/-- The declarations of an element differ in every style at most at their tokens. -/
theorem agrees_of_mem_declarations {t : TokenTable} {h : ElementHead} {d : Declaration}
    (hd : d ∈ (declarations t h).1) (s : TokenStyle) : d.Agrees t s :=
  ⟨fun _ hv => matched_of_mem_declarations (h := h) (List.mem_flatMap.mpr ⟨d,hd,hv⟩),
    sameButHits_value s d⟩

/-! ## Sources -/

/-- Two sources of one name, without a theme and with one. They have the declarations of one
element, each with the same property and with values that differ at most where a token of its own is
written. -/
def SourcesAgree (b : Backend) (t : TokenTable) (x y : String) : Prop :=
  ∃ (name : String) (h : ElementHead), (∀ d ∈ (declarations t h).1, d.Agrees t b.themedStyle) ∧
    x = sourceText b false name h.tag ((declarations t h).1.map (·.written .literal)) ∧
    y = sourceText b true name h.tag ((declarations t h).1.map (·.written b.themedStyle))

section
variable {b : Backend} {t : TokenTable}

lemma sourcesAgree (b : Backend) (t : TokenTable) (name : String) (h : ElementHead) :
    SourcesAgree b t (Scheme.source ⟨b,false,t⟩ h name) (Scheme.source ⟨b,true,t⟩ h name) :=
  ⟨name,h,fun _ hd => agrees_of_mem_declarations hd b.themedStyle,
    Scheme.source_eq_ownSource ⟨b,false,t⟩ h name,Scheme.source_eq_ownSource ⟨b,true,t⟩ h name⟩

/-! ## Collectors -/

/-- Two definitions of one name with agreeing sources. -/
structure DefinitionsAgree (b : Backend) (t : TokenTable) (d e : String × String) : Prop where
  name : d.1 = e.1
  source : SourcesAgree b t d.2 e.2

lemma definitionsAgree_putEntry {es fs : List (String × String)} (name : String) {x y : String}
    (h : List.Forall₂ (DefinitionsAgree b t) es fs) (hxy : SourcesAgree b t x y) :
    List.Forall₂ (DefinitionsAgree b t) (Json.Decoder.putEntry name x es)
      (Json.Decoder.putEntry name y fs) := by
  induction h with
  | nil => exact .cons ⟨rfl,hxy⟩ .nil
  | cons hef hes ih =>
    rw [Json.Decoder.putEntry, Json.Decoder.putEntry, hef.name]
    split
    · exact .cons ⟨rfl,hxy⟩ hes
    · exact .cons ⟨rfl,hef.source⟩ ih

lemma sourcesAgree_lookup {es fs : List (String × String)} (name : String)
    (h : List.Forall₂ (DefinitionsAgree b t) es fs) :
    Option.Rel (SourcesAgree b t) ((es.find? (·.1 == name)).map (·.2))
      ((fs.find? (·.1 == name)).map (·.2)) := by
  induction h with
  | nil => exact .none
  | cons hef hes ih =>
    rw [List.find?_cons, List.find?_cons, hef.name]
    split
    · exact .some hef.source
    · exact ih

/-- Two collectors that have given the same names, to the same elements, and have agreeing
definitions. -/
structure CollectorsAgree (b : Backend) (t : TokenTable) (c d : StyleCollector) : Prop where
  assigned : c.assigned = d.assigned
  definitions : List.Forall₂ (DefinitionsAgree b t) c.definitions d.definitions

namespace CollectorsAgree
variable {c d : StyleCollector}

lemma nameFor?_eq (h : CollectorsAgree b t c d) (id : String) : c.nameFor? id = d.nameFor? id := by
  rw [nameFor?, nameFor?, h.assigned]

lemma usedNames_eq (h : CollectorsAgree b t c d) : c.usedNames = d.usedNames := by
  have hnames : c.definitions.map (·.1) = d.definitions.map (·.1) := by
    rw [← List.forall₂_eq_eq_eq, List.forall₂_map_left_iff, List.forall₂_map_right_iff]
    exact h.definitions.imp fun _ _ hde => hde.name
  rw [usedNames, usedNames, hnames, h.assigned]

/-- Reserving a name finds the same one in both. -/
lemma reserve (h : CollectorsAgree b t c d) (id wanted : String) :
    CollectorsAgree b t (c.reserve id wanted).1 (d.reserve id wanted).1 ∧
      (c.reserve id wanted).2 = (d.reserve id wanted).2 := by
  cases hn : c.nameFor? id with
  | some name =>
    rw [reserve_of_named hn, reserve_of_named (h.nameFor?_eq id ▸ hn)]
    exact ⟨h,rfl⟩
  | none =>
    rw [reserve_of_unnamed hn, reserve_of_unnamed (h.nameFor?_eq id ▸ hn), h.usedNames_eq]
    exact ⟨⟨by rw [h.assigned],h.definitions⟩,rfl⟩

lemma insert (h : CollectorsAgree b t c d) (name : String) {x y : String}
    (hxy : SourcesAgree b t x y) : CollectorsAgree b t (c.insert name x) (d.insert name y) :=
  ⟨h.assigned,definitionsAgree_putEntry name h.definitions hxy⟩

lemma ruleFor? (h : CollectorsAgree b t c d) (g : ElementHead) :
    Option.Rel (SourcesAgree b t) (ruleFor? c g) (ruleFor? d g) := by
  rw [Styling.ruleFor?, Styling.ruleFor?, h.nameFor?_eq]
  cases d.nameFor? g.id with
  | none => exact .none
  | some name => exact sourcesAgree_lookup name h.definitions

end CollectorsAgree

/-! ## Runs -/

/-- Two styles of an element that are used in the same way: with the same attributes, the same name
in place of the tag, a rule for the style sheet or a definition ahead of the component in both. -/
structure UsesAgree (b : Backend) (t : TokenTable) (u v : StyleUse) : Prop where
  attributes : u.attributes = v.attributes
  tag : u.tag? = v.tag?
  rule : Option.Rel (SourcesAgree b t) u.rule? v.rule?
  definition : Option.Rel (fun d e => d.name = e.name ∧ SourcesAgree b t d.source e.source)
    u.definition? v.definition?

lemma UsesAgree.refl_plain : UsesAgree b t .plain .plain := ⟨rfl,rfl,.none,.none⟩

lemma usesAgree_useOf (name : String) {x y : String} (h : SourcesAgree b t x y) :
    UsesAgree b t (useOf b name x) (useOf b name y) := by
  cases b with
  | tailwind | cssModules => exact ⟨rfl,rfl,.some h,.none⟩
  | styledComponents | emotion => exact ⟨rfl,rfl,.none,.some ⟨rfl,h⟩⟩

/-- The states of two runs, without a theme and with one: the same component, names and counts, and
agreeing definitions. -/
structure Twins (b : Backend) (t : TokenTable) (p q : Progress) : Prop where
  component : p.component = q.component
  tally : p.tally = q.tally
  collector : CollectorsAgree b t p.collector q.collector

section
variable {p q : Progress}

lemma Twins.count (h : Twins b t p q) (n : Tally) : Twins b t (p.count n) (q.count n) := by
  refine ⟨h.component,?_,h.collector⟩
  rw [Progress.count, Progress.count, h.tally]

/-- Styling an element by a definition keeps the states twins, and gives it the same kind of
style. -/
lemma Twins.styleByDefinition (h : Twins b t p q) (g : ElementHead) :
    Twins b t (styleByDefinition ⟨b,false,t⟩ p g).1 (styleByDefinition ⟨b,true,t⟩ q g).1 ∧
      UsesAgree b t (styleByDefinition ⟨b,false,t⟩ p g).2 (styleByDefinition ⟨b,true,t⟩ q g).2 := by
  have hcount := h.count (declarations t g).2
  obtain ⟨hcollector,hname⟩ := hcount.collector.reserve g.id (wantedName b g)
  unfold Styling.styleByDefinition
  dsimp only
  split
  · exact ⟨hcount,.refl_plain⟩
  · rw [← hname]
    generalize (p.count _).collector.reserve _ _ = r at hcollector ⊢
    have hsource := sourcesAgree b t r.2 g
    exact ⟨⟨hcount.component,hcount.tally,hcollector.insert r.2 hsource⟩,
      usesAgree_useOf r.2 hsource⟩

/-- Styling an element keeps the states twins, and gives it the same kind of style. -/
theorem Twins.styleElement (h : Twins b t p q) (g : ElementHead) :
    Twins b t (styleElement ⟨b,false,t⟩ p g).1 (styleElement ⟨b,true,t⟩ q g).1 ∧
      UsesAgree b t (styleElement ⟨b,false,t⟩ p g).2 (styleElement ⟨b,true,t⟩ q g).2 := by
  cases b with
  | cssModules | styledComponents | emotion => exact h.styleByDefinition g
  | tailwind =>
    refine ⟨h.count _,?_⟩
    dsimp only [Styling.styleElement, styleByClasses]
    split
    · exact .refl_plain
    · exact ⟨rfl,rfl,.none,.none⟩

lemma Twins.beforeRule (h : Twins b t p q) (g : ElementHead) :
    Twins b t (beforeRule ⟨b,false,t⟩ p g) (beforeRule ⟨b,true,t⟩ q g) := by
  rw [Styling.beforeRule, Styling.beforeRule, h.collector.nameFor?_eq]
  split
  · exact h
  · exact (h.styleByDefinition g).1

lemma forall₂_toList {α : Type} {R : α → α → Prop} {x y : Option α} (h : Option.Rel R x y) :
    List.Forall₂ R x.toList y.toList := by
  cases h with
  | none => exact .nil
  | some h => exact .cons h .nil

lemma Twins.collectRules (h : Twins b t p q) (hs : List ElementHead) :
    Twins b t (collectRules ⟨b,false,t⟩ p hs).1 (collectRules ⟨b,true,t⟩ q hs).1 ∧
      List.Forall₂ (SourcesAgree b t) (collectRules ⟨b,false,t⟩ p hs).2
        (collectRules ⟨b,true,t⟩ q hs).2 := by
  induction hs generalizing p q with
  | nil => exact ⟨h,.nil⟩
  | cons g hs ih =>
    have hbefore := h.beforeRule g
    obtain ⟨hrest,hrules⟩ := ih hbefore
    rw [collectRules_cons, collectRules_cons]
    exact ⟨hrest,List.rel_append (forall₂_toList (hbefore.collector.ruleFor? g)) hrules⟩

end

/-- Two style sheets with agreeing rules in one order. -/
def SheetsAgree (b : Backend) (t : TokenTable) (x y : String) : Prop :=
  ∃ rules rules', List.Forall₂ (SourcesAgree b t) rules rules' ∧
    x = "\n".intercalate rules ∧ y = "\n".intercalate rules'

/-- Collecting the rules of a style sheet keeps the states twins, and there is a sheet in both runs
or in none. -/
theorem Twins.styleSheet {p q : Progress} (h : Twins b t p q) (trees : List Element) :
    Twins b t (styleSheet ⟨b,false,t⟩ p trees).1 (styleSheet ⟨b,true,t⟩ q trees).1 ∧
      Option.Rel (SheetsAgree b t) (styleSheet ⟨b,false,t⟩ p trees).2
        (styleSheet ⟨b,true,t⟩ q trees).2 := by
  obtain ⟨hstate,hrules⟩ := h.collectRules (trees.flatMap Element.walk)
  cases b with
  | tailwind | styledComponents | emotion => exact ⟨h,.none⟩
  | cssModules =>
    refine ⟨hstate,?_⟩
    change Option.Rel _ (if _ then _ else _) (if _ then _ else _)
    generalize (Styling.collectRules ⟨.cssModules,false,t⟩ p _).2 = rules at hrules
    generalize (Styling.collectRules ⟨.cssModules,true,t⟩ q _).2 = rules' at hrules
    cases hrules with
    | nil => exact .none
    | cons hrule hrules => exact .some ⟨_,_,.cons hrule hrules,rfl,rfl⟩

end

/-- A call on a styler. -/
inductive Request where
  /-- Turn to a component. -/
  | component (name : String)
  | style (h : ElementHead)
  /-- Collect the style sheet for the elements of some trees. -/
  | sheet (trees : List Element)
  | reset

/-- What comes of a call. -/
inductive Answer where
  | done
  | style (u : StyleUse)
  | sheet (text : Option String)

/-- Serve a call. -/
def respond (s : Scheme) (p : Progress) : Request → Progress × Answer
  | .component name => (p.beginComponent name,.done)
  | .style h => ((styleElement s p h).1,.style (styleElement s p h).2)
  | .sheet trees => ((styleSheet s p trees).1,.sheet (styleSheet s p trees).2)
  | .reset => (p.reset,.done)

/-- Serve calls one after the other. -/
def run (s : Scheme) (p : Progress) : List Request → List (Progress × Answer)
  | [] => []
  | r :: rs => respond s p r :: run s (respond s p r).1 rs

/-- Two answers to one call. -/
inductive AnswersAgree (b : Backend) (t : TokenTable) : Answer → Answer → Prop
  | done : AnswersAgree b t .done .done
  | style {u v : StyleUse} : UsesAgree b t u v → AnswersAgree b t (.style u) (.style v)
  | sheet {x y : Option String} : Option.Rel (SheetsAgree b t) x y →
      AnswersAgree b t (.sheet x) (.sheet y)

/-- One step of two runs. -/
structure StepsAgree (b : Backend) (t : TokenTable) (x y : Progress × Answer) : Prop where
  state : Twins b t x.1 y.1
  answer : AnswersAgree b t x.2 y.2
  imports : styleImports ⟨b,true,t⟩ y.1 = styleImports ⟨b,false,t⟩ x.1 ++ b.themeImports

section
variable {b : Backend} {t : TokenTable} {p q : Progress}

/-- With a theme there are the imports that there are without one, and then those of the theme. -/
lemma Twins.styleImports (h : Twins b t p q) :
    styleImports ⟨b,true,t⟩ q = styleImports ⟨b,false,t⟩ p ++ b.themeImports := by
  simp [Styling.styleImports, h.component]

/-- Every call keeps the states twins. -/
theorem Twins.respond (h : Twins b t p q) (r : Request) :
    StepsAgree b t (Styling.respond ⟨b,false,t⟩ p r) (Styling.respond ⟨b,true,t⟩ q r) := by
  suffices hstep :
      Twins b t (Styling.respond ⟨b,false,t⟩ p r).1 (Styling.respond ⟨b,true,t⟩ q r).1 ∧
        AnswersAgree b t (Styling.respond ⟨b,false,t⟩ p r).2 (Styling.respond ⟨b,true,t⟩ q r).2 from
    ⟨hstep.1,hstep.2,hstep.1.styleImports⟩
  cases r with
  | component name => exact ⟨⟨rfl,h.tally,h.collector⟩,.done⟩
  | style g => exact (h.styleElement g).imp_right .style
  | sheet trees => exact (h.styleSheet trees).imp_right .sheet
  | reset => exact ⟨⟨h.component,rfl,rfl,.nil⟩,.done⟩

lemma Twins.run (h : Twins b t p q) (rs : List Request) :
    List.Forall₂ (StepsAgree b t) (Styling.run ⟨b,false,t⟩ p rs) (Styling.run ⟨b,true,t⟩ q rs) := by
  induction rs generalizing p q with
  | nil => exact .nil
  | cons r rs ih => exact .cons (h.respond r) (ih (h.respond r).state)

lemma Twins.start (b : Backend) (t : TokenTable) : Twins b t .start .start := ⟨rfl,rfl,rfl,.nil⟩

end

/-- Whatever is asked of them, a styler with a theme and one without go together step by step: they
give the same names and attributes, write the same properties with values that differ only where a
token is written, and count the same. The imports of the theme come after the others. -/
theorem run_themed_agrees (b : Backend) (t : TokenTable) (rs : List Request) :
    List.Forall₂ (StepsAgree b t) (run ⟨b,false,t⟩ .start rs) (run ⟨b,true,t⟩ .start rs) :=
  (Twins.start b t).run rs

end DesignCompiler.Styling
