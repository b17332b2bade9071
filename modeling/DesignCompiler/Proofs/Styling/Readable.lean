import DesignCompiler.Proofs.Styling.Styler
import DesignCompiler.Tokens.Standard
import Mathlib.Tactic.SplitIfs

/-! Token tables whose colors are never cut inside a character when they are read. With such a table
no lookup of a run fails, however the elements are styled. -/
namespace DesignCompiler

/-- Whether a reading failed because the text is cut inside a character. -/
def Color.isCut {α : Type} : Except HexFault α → Bool
  | .error .cutsCharacter => true
  | _ => false

/-- No color of the table and no color of its shadows is cut inside a character. -/
structure Tokens.TokenTable.Readable (t : Tokens.TokenTable) : Prop where
  colors : ∀ e ∈ t.colorEntries, Color.isCut (Color.readHex e.2) = false
  shadows : ∀ e ∈ t.shadows, Color.isCut (Styling.readShadow e.2) = false

instance (t : Tokens.TokenTable) : Decidable t.Readable :=
  decidable_of_iff ((∀ e ∈ t.colorEntries, Color.isCut (Color.readHex e.2) = false) ∧
    ∀ e ∈ t.shadows, Color.isCut (Styling.readShadow e.2) = false)
    ⟨fun h => ⟨h.1,h.2⟩,fun h => ⟨h.colors,h.shadows⟩⟩

/-- The tokens of a project that has none of its own are readable. -/
example : Tokens.TokenTable.standard.Readable := by decide +kernel

namespace Styling
open Tokens

/-! ## Counting -/

namespace Tally

@[simp] lemma unreadable_add (a b : Tally) :
    (a + b).unreadable = (a.unreadable || b.unreadable) := rfl

lemma unreadable_foldl (ts : List Tally) (a : Tally) :
    (ts.foldl (· + ·) a).unreadable = (a.unreadable || ts.any (·.unreadable)) := by
  induction ts generalizing a with
  | nil => simp
  | cons t ts ih => rw [List.foldl_cons, ih, unreadable_add, List.any_cons, Bool.or_assoc]

@[simp] lemma unreadable_sum (ts : List Tally) :
    (sum ts).unreadable = ts.any (·.unreadable) := by
  rw [sum, unreadable_foldl]
  rfl

end Tally

/-- Whether no lookup for a value failed. -/
def Counted.Readable {α : Type} (v : Counted α) : Prop := v.2.unreadable = false

section
variable {α : Type}

/-- What is joined from readable parts is readable. -/
lemma Counted.readable_foldl {f : Counted α → Counted α → Counted α}
    (hf : ∀ a b, (f a b).2 = a.2 + b.2) {vs : List (Counted α)} (h : ∀ v ∈ vs, v.Readable)
    {start : Counted α} (hs : start.Readable) : (vs.foldl f start).Readable := by
  induction vs generalizing start with
  | nil => exact hs
  | cons v vs ih =>
    obtain ⟨hv,hvs⟩ := List.forall_mem_cons.mp h
    refine ih hvs ?_
    rw [Readable] at hs hv ⊢
    rw [hf, Tally.unreadable_add, hs, hv, Bool.or_self]

lemma readable_counted (found : Option (TokenPath × String)) (literal : String) :
    (counted found literal).Readable := by
  cases found <;> rfl

end

/-! ## Lookups -/

lemma exists_colorWithHex {es : List (TokenPath × String)}
    (h : ∀ e ∈ es, Color.isCut (Color.readHex e.2) = false) (hex : String) :
    ∃ found, colorWithHex hex es = .ok found := by
  induction es with
  | nil => exact ⟨none,rfl⟩
  | cons e es ih =>
    obtain ⟨he,hes⟩ := List.forall_mem_cons.mp h
    rw [colorWithHex]
    split
    · split
      · exact ⟨_,rfl⟩
      · exact ih hes
    · exact ih hes
    · next hcut =>
      rw [hcut] at he
      contradiction

lemma exists_presetShadow {es : List (String × String)}
    (h : ∀ e ∈ es, Color.isCut (readShadow e.2) = false) (s : Shadow) :
    ∃ found, presetShadow s es = .ok found := by
  induction es with
  | nil => exact ⟨none,rfl⟩
  | cons e es ih =>
    obtain ⟨he,hes⟩ := List.forall_mem_cons.mp h
    rw [presetShadow]
    split
    · split
      · exact ⟨_,rfl⟩
      · exact ih hes
    · exact ih hes
    · next hcut =>
      rw [hcut] at he
      contradiction

section
variable {t : TokenTable}

lemma readable_matchColor (ht : t.Readable) (c : Color) : (matchColor t c).Readable := by
  obtain ⟨found,hfound⟩ := exists_colorWithHex ht.colors c.toHex
  unfold matchColor
  split
  · split
    · exact readable_counted _ _
    · rw [hfound]
      exact readable_counted _ _
  · exact readable_counted _ _

lemma readable_matchSpacing (t : TokenTable) (x : Float) : (matchSpacing t x).Readable :=
  readable_counted _ _

lemma readable_matchRadius (t : TokenTable) (x : Float) : (matchRadius t x).Readable :=
  readable_counted _ _

lemma readable_matchFontSize (t : TokenTable) (x : Float) : (matchFontSize t x).Readable :=
  readable_counted _ _

lemma readable_matchShadows (ht : t.Readable) (shadows : List Shadow) :
    (matchShadows t shadows).Readable := by
  unfold matchShadows
  split
  · next s =>
    obtain ⟨found,hfound⟩ := exists_presetShadow ht.shadows s
    rw [hfound]
    exact readable_counted _ _
  · exact readable_counted _ _

lemma readable_matchGradient (ht : t.Readable) (g : Gradient) : (matchGradient t g).Readable := by
  unfold matchGradient
  dsimp only
  split
  · next d a b _ _ =>
    have ha : (matchColor t a.color).2.unreadable = false := readable_matchColor ht a.color
    have hb : (matchColor t b.color).2.unreadable = false := readable_matchColor ht b.color
    rw [Counted.Readable, Tally.unreadable_add, Tally.unreadable_add, ha, hb]
    rfl
  · rfl

end

/-! ## Declarations and classes -/

namespace Sheet

lemma readable_join {sheets : List Sheet} (h : ∀ x ∈ sheets, Counted.Readable x) :
    Counted.Readable (join sheets) := Counted.readable_foldl (fun _ _ => rfl) h rfl

lemma readable_optional {α : Type} {a : Option α} {f : α → Sheet}
    (h : ∀ x, Counted.Readable (f x)) : Counted.Readable (optional a f) := by
  cases a with
  | none => rfl
  | some x => exact h x

lemma readable_matchedList {property : String} {vs : List (Counted TokenValue)}
    (h : ∀ v ∈ vs, v.Readable) : Counted.Readable (matchedList property vs) := by
  rw [Counted.Readable, matchedList, Tally.unreadable_sum, List.any_map, List.any_eq_false]
  intro v hv
  exact ne_true_of_eq_false (h v hv)

end Sheet

namespace Classes

lemma readable_join {cs : List Classes} (h : ∀ x ∈ cs, Counted.Readable x) :
    Counted.Readable (join cs) := Counted.readable_foldl (fun _ _ => rfl) h rfl

lemma readable_optional {α : Type} {a : Option α} {f : α → Classes}
    (h : ∀ x, Counted.Readable (f x)) : Counted.Readable (optional a f) := by
  cases a with
  | none => rfl
  | some x => exact h x

end Classes

section
variable {t : TokenTable}

lemma readable_layoutSheet (t : TokenTable) (l : Layout) : Counted.Readable (layoutSheet t l) := by
  have hspacing : ∀ property x, Counted.Readable (Sheet.optional x fun x =>
      .matched property (matchSpacing t x)) := fun _ _ =>
    Sheet.readable_optional fun x => readable_matchSpacing t x
  refine Sheet.readable_join ?_
  simp only [List.forall_mem_cons]
  refine ⟨rfl,hspacing _ _,hspacing _ _,hspacing _ _,?_,rfl,List.forall_mem_nil _⟩
  refine Sheet.readable_optional fun p => Sheet.readable_matchedList ?_
  exact List.forall_mem_map.mpr fun x _ => readable_matchSpacing t x

lemma readable_backgroundSheet (ht : t.Readable) (b : Background) :
    Counted.Readable (backgroundSheet t b) := by
  cases b with
  | solid c => exact readable_matchColor ht c
  | image i => rfl
  | gradient g =>
    have hg := readable_matchGradient ht g
    unfold backgroundSheet
    dsimp only
    split
    all_goals
      next he =>
      rw [he] at hg
      exact hg

lemma readable_radiusSheet (t : TokenTable) (r : Radius) :
    Counted.Readable (radiusSheet t r) := by
  cases r with
  | uniform r => exact readable_matchRadius t r
  | corners c => rfl

lemma readable_fontSheet (ht : t.Readable) (f : Font) : Counted.Readable (fontSheet t f) := by
  refine Sheet.readable_join ?_
  simp only [List.forall_mem_cons]
  exact ⟨rfl,readable_matchFontSize t _,rfl,
    Sheet.readable_optional fun c => readable_matchColor ht c,List.forall_mem_nil _⟩

lemma readable_lookSheet (ht : t.Readable) (s : Style) : Counted.Readable (lookSheet t s) := by
  refine Sheet.readable_join ?_
  simp only [List.forall_mem_cons]
  refine ⟨Sheet.readable_optional fun b => readable_backgroundSheet ht b,
    Sheet.readable_optional fun b => readable_matchColor ht b.color,
    Sheet.readable_optional fun r => readable_radiusSheet t r,?_,rfl,
    Sheet.readable_optional fun f => readable_fontSheet ht f,List.forall_mem_nil _⟩
  split
  · rfl
  · exact readable_matchShadows ht _

/-- No lookup for the declarations of an element fails. -/
theorem readable_declarations (ht : t.Readable) (h : ElementHead) :
    Counted.Readable (declarations t h) := by
  have hlayout : (layoutSheet t h.layout).2.unreadable = false := readable_layoutSheet t _
  have hlook : (lookSheet t h.style).2.unreadable = false := readable_lookSheet ht _
  rw [Counted.Readable, declarations, Sheet.append, Tally.unreadable_add, hlayout, hlook]
  rfl

lemma readable_lengthClass (t : TokenTable) (stem : String) (x : Float) :
    Counted.Readable (lengthClass t stem x) := readable_matchSpacing t x

lemma readable_extentClass (t : TokenTable) (stem : String) (x : Extent) :
    Counted.Readable (extentClass t stem x) := by
  cases x with
  | fixed x => exact readable_lengthClass t stem x
  | fill | hug | auto => rfl

lemma readable_paddingClasses (t : TokenTable) (p : Sides) :
    Counted.Readable (paddingClasses t p) :=
  Classes.readable_join (List.forall_mem_map.mpr fun e _ => readable_lengthClass t e.1 e.2)

lemma readable_layoutClasses (t : TokenTable) (l : Layout) :
    Counted.Readable (layoutClasses t l) := by
  have hlength : ∀ stem x, Counted.Readable (Classes.optional x (lengthClass t stem)) :=
    fun stem _ => Classes.readable_optional (readable_lengthClass t stem)
  refine Classes.readable_join ?_
  simp only [List.forall_mem_cons]
  exact ⟨rfl,hlength _ _,hlength _ _,hlength _ _,hlength _ _,rfl,hlength _ _,hlength _ _,
    hlength _ _,Classes.readable_optional (readable_paddingClasses t),rfl,
    readable_extentClass t _ _,readable_extentClass t _ _,List.forall_mem_nil _⟩

lemma readable_colorClass (ht : t.Readable) (stem : String) (c : Color) :
    Counted.Readable (colorClass t stem c) := readable_matchColor ht c

lemma readable_backgroundClasses (ht : t.Readable) (b : Background) :
    Counted.Readable (backgroundClasses t b) := by
  cases b with
  | solid c => exact readable_matchColor ht c
  | image i => rfl
  | gradient g =>
    have hg := readable_matchGradient ht g
    unfold backgroundClasses
    dsimp only
    split
    all_goals
      next he =>
      rw [he] at hg
      exact hg

lemma readable_radiusClasses (t : TokenTable) (r : Radius) :
    Counted.Readable (radiusClasses t r) := by
  cases r with
  | uniform r => exact readable_matchRadius t r
  | corners c =>
    exact Classes.readable_join (List.forall_mem_map.mpr fun e _ => readable_matchRadius t e.2)

lemma readable_lookClasses (ht : t.Readable) (s : Style) :
    Counted.Readable (lookClasses t s) := by
  have hborder : ∀ b, Counted.Readable (borderClasses t b) := fun b =>
    readable_colorClass ht "border" b.color
  refine Classes.readable_join ?_
  simp only [List.forall_mem_cons]
  refine ⟨Classes.readable_optional (readable_backgroundClasses ht),
    Classes.readable_optional hborder,Classes.readable_optional (readable_radiusClasses t),?_,rfl,
    List.forall_mem_nil _⟩
  split
  · rfl
  · exact readable_matchShadows ht _

lemma readable_fontClasses (ht : t.Readable) (f : Font) : Counted.Readable (fontClasses t f) := by
  refine Classes.readable_join ?_
  simp only [List.forall_mem_cons]
  exact ⟨rfl,readable_matchFontSize t _,rfl,
    Classes.readable_optional (readable_colorClass ht "text"),List.forall_mem_nil _⟩

/-- No lookup for the classes of an element fails. -/
theorem readable_utilityClasses (ht : t.Readable) (h : ElementHead) :
    Counted.Readable (utilityClasses t h) := by
  refine Classes.readable_join ?_
  simp only [List.forall_mem_cons]
  exact ⟨readable_layoutClasses t _,readable_lookClasses ht _,
    Classes.readable_optional (readable_fontClasses ht),List.forall_mem_nil _⟩

end

/-! ## Styling elements -/

section
variable {s : Scheme} {p : Progress}

/-- Whether no lookup of a run has failed so far. -/
def Progress.Readable (p : Progress) : Prop := p.tally.unreadable = false

lemma Progress.Readable.count (hp : p.Readable) {t : Tally} (ht : t.unreadable = false) :
    (p.count t).Readable := by
  rw [Readable] at hp
  rw [Readable, Progress.count, Tally.unreadable_add, hp, ht]
  rfl

lemma readable_styleByDefinition (ht : s.tokens.Readable) (hp : p.Readable) (h : ElementHead) :
    (styleByDefinition s p h).1.Readable := by
  have hcount := hp.count (readable_declarations ht h)
  unfold styleByDefinition
  dsimp only
  split
  · exact hcount
  · exact hcount

lemma readable_styleElement (ht : s.tokens.Readable) (hp : p.Readable) (h : ElementHead) :
    (styleElement s p h).1.Readable := by
  unfold styleElement
  split
  · exact hp.count (readable_utilityClasses ht h)
  · exact readable_styleByDefinition ht hp h

theorem readable_styleAll (ht : s.tokens.Readable) (hp : p.Readable) (hs : List ElementHead) :
    (styleAll s p hs).1.Readable := by
  induction hs generalizing p with
  | nil => exact hp
  | cons h hs ih => exact ih (readable_styleElement ht hp h)

lemma readable_collectRules (ht : s.tokens.Readable) (hp : p.Readable) (hs : List ElementHead) :
    (collectRules s p hs).1.Readable := by
  induction hs generalizing p with
  | nil => exact hp
  | cons h hs ih =>
    rw [collectRules_cons]
    refine ih ?_
    unfold beforeRule
    split
    · exact hp
    · exact readable_styleByDefinition ht hp h

theorem readable_styleSheet (ht : s.tokens.Readable) (hp : p.Readable) (trees : List Element) :
    (styleSheet s p trees).1.Readable := by
  unfold styleSheet
  split
  · exact readable_collectRules ht hp _
  · exact hp

end

end Styling

end DesignCompiler
