import DesignCompiler.Proofs.Element.RawTexts
import DesignCompiler.Proofs.Markup.Lines

/-! The markup that is built for a tree is proper when the elements of the tree are, and the tokens
and the asset files that it is built with. -/
namespace DesignCompiler.Markup
open Text Styling Project

/-- What markup is built with, when all that is written as it stands is on one line. -/
structure Setting.Proper (st : Setting) : Prop where
  tokens : AllOneLine st.scheme.tokens.rawTexts
  assetBase : OneLine st.options.assetBase
  assets : AllOneLine (st.options.assets.map (·.2))

/-- The building has named its styles by texts on one line. -/
def Building.Proper (b : Building) : Prop := b.progress.collector.Proper

/-- The address of an asset file is written from the base and the file. -/
lemma mem_assetUrl {o : ConvertOptions} {file : String} {c : Char}
    (hc : c ∈ (o.assetUrl file).toList) : c ∈ o.assetBase.toList ∨ c = '/' ∨ c ∈ file.toList := by
  simp only [ConvertOptions.assetUrl, ConvertOptions.withoutFinalSlashes, String.toList_append,
    String.toList_ofList, List.mem_append] at hc
  obtain (hc | hc) | hc := hc
  · exact .inl (dropEndWhile_subset _ _ hc)
  · exact .inr (.inl (List.mem_singleton.mp hc))
  · exact .inr (.inr (List.dropWhile_subset _ hc))

lemma oneLine_assetUrl {o : ConvertOptions} (ho : OneLine o.assetBase) {file : String}
    (hf : OneLine file) : OneLine (o.assetUrl file) := by
  intro hc
  obtain hc | hc | hc := mem_assetUrl hc
  · exact ho hc
  · exact absurd hc (by decide)
  · exact hf hc

section
variable {st : Setting} {b : Building} {h : ElementHead}

lemma oneLine_asset (hst : st.Proper) {key file : String}
    (hf : st.options.asset? key = some file) : OneLine file := by
  obtain ⟨e,he,rfl⟩ := Option.map_eq_some_iff.mp hf
  exact hst.assets _ (List.mem_map_of_mem (List.mem_of_find?_eq_some he))

lemma proper_openElement (hst : st.Proper) (hb : b.Proper) (hh : h.Proper) (keyed : Bool)
    {texts : List (String × String)} (ht : AllOneLine (texts.map (·.1))) :
    (openElement st b keyed h texts).1.Proper ∧ (openElement st b keyed h texts).2.Proper := by
  obtain ⟨hcollector,hstyle⟩ := proper_styleElement hst.tokens hh.style hh.tag hb
  exact ⟨hcollector,hh.tag,hstyle,ht⟩

lemma proper_contentOf (hh : h.Proper) : (contentOf h).Proper := by
  unfold contentOf
  split
  · next prop hp => exact hh.binding prop hp
  · trivial

lemma proper_textMarkup {o : Opening} (ho : o.Proper) {c : TextContent} (hc : c.Proper) :
    (textMarkup o c).Proper := by
  unfold textMarkup
  split
  · exact .void ho
  · exact .text ho hc

lemma oneLine_iconIdentifier (name : String) : OneLine (iconIdentifier name) := by
  have hident := Naming.oneLine_componentIdentifier name
  unfold iconIdentifier
  dsimp only
  split
  · exact hident
  · exact oneLine_append.mpr ⟨hident,by decide⟩

lemma proper_iconMarkup (hst : st.Proper) (hh : h.Proper) (hk : h.kind = .icon) (keyed : Bool) :
    (iconMarkup st.options keyed h).Proper := by
  unfold iconMarkup
  split
  · next file hf =>
    refine .icon ?_ ?_ <;> dsimp only
    · exact oneLine_iconIdentifier h.name
    · exact oneLine_assetUrl hst.assetBase (oneLine_asset hst hf)
  · exact .comment (oneLine_append.mpr ⟨by decide,hh.name (.inl hk)⟩)

lemma proper_instanceMarkup (r : ComponentRegistry) (hh : h.Proper)
    (hk : h.kind = .componentInstance) (keyed : Bool) : (instanceMarkup r keyed h).Proper := by
  unfold instanceMarkup
  split
  · next i hi => exact .component hh.tag (hh.overrides i (Option.filter_eq_some_iff.mp hi).1)
  · exact .comment (oneLine_append.mpr ⟨by decide,hh.name (.inr hk)⟩)

lemma proper_comments (hh : h.Proper) : ∀ j ∈ comments h, j.Proper :=
  List.forall_mem_map.mpr fun w hw => .comment (hh.warnings w hw).1

end

section
variable {st : Setting} {e : Element}

/-- Wherever the building stands, the markup of an element is proper, and so is the building after
it. -/
def MarkupProper (st : Setting) (e : Element) : Prop :=
  ∀ (b : Building) (keyed : Bool), b.Proper →
    (markup st b keyed e).1.Proper ∧ (markup st b keyed e).2.Proper

lemma proper_childMarkup (he : MarkupProper st e) (hh : e.head.Proper) {b : Building}
    (hb : b.Proper) (r : Option Repeat) (i : ℕ) :
    (childMarkup st b r i e).1.Proper ∧ ∀ j ∈ (childMarkup st b r i e).2, j.Proper := by
  have hcomments := proper_comments hh
  rw [childMarkup_eq]
  split_ifs
  · exact ⟨hb,List.forall_mem_nil _⟩
  · have hname : OneLine (Naming.fresh b.collections (collectionName e.head)) :=
      Naming.oneLine_fresh (oneLine_append.mpr ⟨Naming.oneLine_identifier _ _,by decide⟩) _
    obtain ⟨hb,hj⟩ := he ⟨b.progress,b.collections ++ [_]⟩ true hb
    exact ⟨hb,List.forall_mem_append.mpr
      ⟨hcomments,List.forall_mem_singleton.mpr (.each hname hj)⟩⟩
  · obtain ⟨hb,hj⟩ := he b false hb
    exact ⟨hb,List.forall_mem_append.mpr ⟨hcomments,List.forall_mem_singleton.mpr hj⟩⟩

lemma proper_childrenMarkup {es : List Element} (hes : ∀ e ∈ es, MarkupProper st e ∧ e.head.Proper)
    {b : Building} (hb : b.Proper) (r : Option Repeat) (i : ℕ) :
    (childrenMarkup st b r i es).1.Proper ∧ ∀ j ∈ (childrenMarkup st b r i es).2, j.Proper := by
  induction es generalizing b i with
  | nil =>
    rw [childrenMarkup]
    exact ⟨hb,List.forall_mem_nil _⟩
  | cons e es ih =>
    obtain ⟨⟨he,hh⟩,hes⟩ := List.forall_mem_cons.mp hes
    obtain ⟨hb,hjs⟩ := proper_childMarkup he hh hb r i
    obtain ⟨hb,hrest⟩ := ih hes hb (i+1)
    rw [childrenMarkup_cons]
    exact ⟨hb,List.forall_mem_append.mpr ⟨hjs,hrest⟩⟩

/-- The markup of a tree of proper elements is proper. -/
theorem proper_markup (hst : st.Proper) (he : ∀ h ∈ e.walk, h.Proper) : MarkupProper st e := by
  induction e with
  | mk h es ih =>
    intro b keyed hb
    rw [Element.walk_mk, List.forall_mem_cons, List.forall_mem_flatMap] at he
    obtain ⟨hh,hes⟩ := he
    have hopen : ∀ texts : List (String × String), AllOneLine (texts.map (·.1)) →
        (openElement st b keyed h texts).1.Proper ∧ (openElement st b keyed h texts).2.Proper :=
      fun _ => proper_openElement hst hb hh keyed
    rw [markup]
    cases hk : h.kind
    case text =>
      obtain ⟨hb,ho⟩ := hopen [] allOneLine_nil
      exact ⟨hb,proper_textMarkup ho (proper_contentOf hh)⟩
    case image =>
      obtain ⟨hb,ho⟩ := hopen (imageTexts st.options h) (by decide : AllOneLine ["src","alt"])
      exact ⟨hb,.void ho⟩
    case divider =>
      obtain ⟨hb,ho⟩ := hopen [] allOneLine_nil
      exact ⟨hb,.void ho⟩
    case icon => exact ⟨hb,proper_iconMarkup hst hh hk keyed⟩
    case componentInstance => exact ⟨hb,proper_instanceMarkup st.registry hh hk keyed⟩
    case container | component =>
      obtain ⟨hb,ho⟩ := hopen [] allOneLine_nil
      dsimp only
      split_ifs with hempty hline
      · exact ⟨hb,.void ho⟩
      · obtain ⟨e,rfl⟩ := exists_eq_singleton_of_standsOnOneLine hline
        have he := ih e (List.mem_singleton_self e) (hes e (List.mem_singleton_self e))
        obtain ⟨hb,hj⟩ := he _ false hb
        exact ⟨hb,.inlined ho hj⟩
      · have hchildren : ∀ e ∈ es, MarkupProper st e ∧ e.head.Proper := by
          intro e he
          have hwalk := hes e he
          refine ⟨ih e he hwalk,?_⟩
          rw [Element.walk_eq] at hwalk
          exact hwalk _ List.mem_cons_self
        obtain ⟨hb,hjs⟩ := proper_childrenMarkup hchildren hb (repetition? h) 0
        exact ⟨hb,.block ho hjs⟩

end

/-! ## The markup of a component -/

/-- Markup whose component and whose notes stand on one line each, as do its lines. -/
structure Proper (m : DesignCompiler.Markup) : Prop where
  component : OneLine m.component
  notes : ∀ w ∈ m.notes, IsRemark w
  root : m.root.Proper

theorem proper_built {st : Setting} (hst : st.Proper) {p : Progress} (hp : p.collector.Proper)
    {name : String} (hn : OneLine name) {e : Element} (he : ∀ h ∈ e.walk, h.Proper) :
    (build st p name e).2.Proper := by
  have hhead : e.head.Proper := he _ (by rw [Element.walk_eq]; exact List.mem_cons_self)
  exact ⟨hn,hhead.warnings,(proper_markup hst he ⟨p,[]⟩ false hp).2⟩

section
variable {m : DesignCompiler.Markup}

lemma Proper.components (h : m.Proper) : AllOneLine m.components := by
  intro tag ht
  obtain ⟨part,hpart,hk⟩ := List.mem_filterMap.mp (mem_of_mem_firstByKey ht)
  cases part with
  | component other =>
    dsimp only at hk
    split at hk <;> cases hk
    exact h.root.parts _ hpart
  | comment | icon | opening | content | collection => nomatch hk

lemma Proper.icons (h : m.Proper) : ∀ i ∈ m.icons, OneLine i.ident ∧ OneLine i.url := by
  intro i hi
  obtain ⟨part,hpart,hk⟩ := List.mem_filterMap.mp (mem_of_mem_firstByKey hi)
  cases part with
  | icon j =>
    cases hk
    exact h.root.parts _ hpart
  | comment | component | opening | content | collection => nomatch hk

lemma Proper.definitions (h : m.Proper) : ∀ d ∈ m.definitions, UserBlocks.Plain d.source := by
  intro d hd
  obtain ⟨part,hpart,hk⟩ := List.mem_filterMap.mp (mem_of_mem_firstByKey hd)
  cases part with
  | opening o =>
    have ho : o.Proper := h.root.parts _ hpart
    exact ho.style.definition d hk
  | comment | icon | component | content | collection => nomatch hk

lemma Proper.collections (h : m.Proper) : ∀ c ∈ m.collections, OneLine c.name := by
  intro c hc
  obtain ⟨part,hpart,hk⟩ := List.mem_filterMap.mp hc
  cases part with
  | collection other =>
    cases hk
    exact h.root.parts _ hpart
  | comment | icon | component | opening | content => nomatch hk

end

end DesignCompiler.Markup
