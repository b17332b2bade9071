import DesignCompiler.Proofs.Element.RawTexts
import DesignCompiler.Proofs.Styling.Spelling

/-! The utility classes of an element are spelled with the keys of the tokens that are found for it
and with two texts of its style, so that they stand on one line when these do. -/
namespace DesignCompiler.Styling
open Text Tokens

/-! ## What is inserted -/

section
variable (t : TokenTable)

/-- A fixed length, if a size is one. -/
def extentLengths : Extent → List Float
  | .fixed x => [x]
  | .fill | .hug | .auto => []

/-- The lengths of a layout in the order of its classes. -/
def layoutLengths (l : Layout) : List Float :=
  let inset := l.position.inset?
  (inset.bind (·.top)).toList ++ (inset.bind (·.right)).toList ++ (inset.bind (·.bottom)).toList ++
    (inset.bind (·.left)).toList ++ l.gap.toList ++ l.rowGap.toList ++ l.columnGap.toList ++
    l.padding.toList.flatMap (fun p => (collapseBox p).toList) ++ extentLengths l.width ++
    extentLengths l.height

/-- What is inserted for lengths. -/
def lengthInserts (xs : List Float) : List Insert :=
  xs.flatMap fun x => (matchSpacing t x).1.inserts

/-- What is inserted for a color. -/
def colorInserts (c : Color) : List Insert := (matchColor t c).1.inserts

/-- What is inserted for a background: colors, or the reference to an image. -/
def backgroundInserts : Background → List Insert
  | .solid c => colorInserts t c
  | .gradient g =>
    match (matchGradient t g).1 with
    | .directional _ start stop => start.inserts ++ stop.inserts
    | .raw _ => []
  | .image i => i.imageRef.toList.map .free

/-- The radii of the corners as they are matched. -/
def radii : Radius → List Float
  | .uniform r => [r]
  | .corners c => c.toList

/-- What is inserted for the look of an element. -/
def lookInserts (s : Style) : List Insert :=
  s.background.toList.flatMap (backgroundInserts t) ++
    s.border.toList.flatMap (fun b => colorInserts t b.color) ++
    s.borderRadius.toList.flatMap
      (fun r => (radii r).flatMap fun x => (matchRadius t x).1.inserts) ++
    if s.shadows.isEmpty then [] else (matchShadows t s.shadows).1.inserts

/-- What is inserted for a font: the family, the size and the color. -/
def fontInserts (f : Font) : List Insert :=
  f.family.toList.map .free ++ (matchFontSize t f.size).1.inserts ++
    f.color.toList.flatMap (colorInserts t)

/-- The texts that are inserted in the classes of an element, in order. -/
def inserts (h : ElementHead) : List Insert :=
  lengthInserts t (layoutLengths h.layout) ++ lookInserts t h.style ++
    h.style.font.toList.flatMap (fontInserts t)

variable {t}

/-! ## Layout -/

lemma lengthInserts_append (xs ys : List Float) :
    lengthInserts t (xs ++ ys) = lengthInserts t xs ++ lengthInserts t ys := List.flatMap_append

/-- A class for a value in a table. -/
lemma spells_suffix {stem suffix : String} {v : TokenValue} (hs : IsKeyword stem)
    (hv : foreign suffix = foreignOf v.inserts) : Spells v.inserts [stem ++ "-" ++ suffix] :=
  .singleton (hs.append (by decide)) hv

lemma spells_lengthClass {stem : String} (hs : IsKeyword stem) (x : Float) :
    Spells (lengthInserts t [x]) (lengthClass t stem x).1 := by
  rw [lengthInserts, List.flatMap_singleton]
  exact spells_suffix hs (foreign_keySuffix (isEntry_matchLength (by decide) _ _))

lemma spells_colorClass {stem : String} (hs : IsKeyword stem) (c : Color) :
    Spells (colorInserts t c) (colorClass t stem c).1 :=
  spells_suffix hs (foreign_colorSuffix (isShade_matchColor t c))

lemma spells_optionalLength {stem : String} (hs : IsKeyword stem) (x : Option Float) :
    Spells (lengthInserts t x.toList) (Classes.optional x (lengthClass t stem)).1 := by
  have hlength : lengthInserts t x.toList = x.toList.flatMap fun y => lengthInserts t [y] := by
    cases x <;> simp [lengthInserts]
  rw [hlength]
  exact Classes.spells_optional fun y _ => spells_lengthClass hs y

lemma spells_extentClass {stem : String} (hs : IsKeyword stem) (e : Extent) :
    Spells (lengthInserts t (extentLengths e)) (extentClass t stem e).1 := by
  cases e with
  | fixed x => exact spells_lengthClass hs x
  | fill | hug =>
    exact .keywords (List.forall_mem_singleton.mpr (hs.append (by decide)))
  | auto => exact .nil

lemma spells_paddingClasses (p : Sides) :
    Spells (lengthInserts t (collapseBox p).toList) (paddingClasses t p).1 := by
  have hsides : ∀ sides : List (String × Float), (∀ e ∈ sides, IsKeyword e.1) →
      Spells (lengthInserts t (sides.map (·.2)))
        (Classes.join (sides.map fun e => lengthClass t e.1 e.2)).1 := by
    intro sides hstems
    have hinserts : lengthInserts t (sides.map (·.2)) =
        sides.flatMap fun e => lengthInserts t [e.2] := by
      simp [lengthInserts, List.flatMap_map]
    rw [hinserts]
    exact Classes.spells_join_map fun e he => spells_lengthClass (hstems e he) e.2
  unfold paddingClasses
  cases collapseBox p with
  | one x => exact hsides [("p",x)] (by simp +decide)
  | pair vertical horizontal =>
    exact hsides [("py",vertical),("px",horizontal)] (by simp +decide)
  | four s =>
    exact hsides [("pt",s.top),("pr",s.right),("pb",s.bottom),("pl",s.left)] (by simp +decide)

lemma isKeyword_position (p : Position) : IsKeyword p.css := by
  cases p with
  | static | relative => decide
  | absolute => exact (by decide : IsKeyword "absolute")

theorem spells_layoutClasses (l : Layout) :
    Spells (lengthInserts t (layoutLengths l)) (layoutClasses t l).1 := by
  have hjustify : ∀ j, IsKeyword (justifyClass j) := by rintro (_ | _ | _ | _) <;> decide
  have halign : ∀ a, IsKeyword (alignClass a) := by rintro (_ | _ | _ | _) <;> decide
  have hdisplay (display : Option String) (hd : ∀ s ∈ display, IsKeyword s) :
      Spells [] (Classes.texts [display,
        if l.position.isStatic then none else some l.position.css]).1 := by
    refine Classes.spells_texts ?_
    simp only [List.forall_mem_cons]
    refine ⟨hd,?_,List.forall_mem_nil _⟩
    split <;> simp [isKeyword_position]
  have hflow : Spells [] (Classes.texts [
      if l.direction == some .column then some "flex-col" else none,
      if l.wrap then some "flex-wrap" else none]).1 := by
    refine Classes.spells_texts ?_
    simp only [List.forall_mem_cons]
    refine ⟨?_,?_,List.forall_mem_nil _⟩ <;> split <;> simp +decide
  have harrange : Spells [] (Classes.texts [l.justify.map justifyClass,l.align.map alignClass]).1 :=
    Classes.spells_texts (by simp [hjustify, halign])
  have hpadding :
      Spells (lengthInserts t (l.padding.toList.flatMap fun p => (collapseBox p).toList))
        (Classes.optional l.padding (paddingClasses t)).1 := by
    rw [lengthInserts, List.flatMap_assoc]
    exact Classes.spells_optional fun p _ => spells_paddingClasses p
  have hlength {stem : String} (hs : IsKeyword stem) (x : Option Float) :=
    spells_optionalLength (t := t) hs x
  simp only [layoutClasses, layoutLengths, Classes.join_fst, List.flatMap_cons, List.flatMap_nil,
    List.append_nil, lengthInserts_append, List.append_assoc]
  exact (hdisplay _ (by cases l.display <;> simp +decide)).append
    ((hlength (by decide) _).append ((hlength (by decide) _).append
    ((hlength (by decide) _).append ((hlength (by decide) _).append (hflow.append
    ((hlength (by decide) _).append ((hlength (by decide) _).append ((hlength (by decide) _).append
    (hpadding.append (harrange.append ((spells_extentClass (by decide) _).append
    (spells_extentClass (by decide) _))))))))))))

/-! ## Look -/

theorem spells_backgroundClasses (b : Background) :
    Spells (backgroundInserts t b) (backgroundClasses t b).1 := by
  cases b with
  | solid c => exact spells_colorClass (by decide) c
  | gradient g =>
    have hshort : ∀ d : Direction, IsKeyword ("bg-gradient-to-" ++ d.short) := by
      rintro (_ | _ | _ | _) <;> decide
    unfold backgroundInserts backgroundClasses
    dsimp only
    obtain ⟨d,a,b,hg⟩ | hg := matchGradient_cases t g
    all_goals
      generalize matchGradient t g = found at hg ⊢
      obtain ⟨_,tally⟩ := found
      cases hg
    · exact (Spells.keywords (List.forall_mem_singleton.mpr (hshort d))).append
        ((Spells.singleton (by decide) (foreign_colorSuffix (isShade_matchColor t a))).append
          (.singleton (by decide) (foreign_colorSuffix (isShade_matchColor t b))))
    · have hstops : ∀ c ∈ g.stops.map (·.color.toCss), IsValueText c :=
        List.forall_mem_map.mpr fun s _ => isValueText_toCss s.color
      exact .singleton (by decide) (foreign_bracketed (isValueText_gradientText g hstops))
  | image i =>
    have hsize : Spells [] ["bg-cover","bg-center"] := .keywords (by decide)
    cases hr : i.imageRef with
    | none =>
      simp only [backgroundInserts, backgroundClasses, hr]
      exact hsize
    | some r =>
      have href : foreign (arbitrary r ++ ")]") = foreignOf [.free r] := by
        have hclose : foreign ")]" = [] := by decide
        rw [foreign_append, hclose]
        rfl
      have himage : Spells [.free r] ["bg-[url(" ++ arbitrary r ++ ")]"] := by
        rw [String.append_assoc]
        exact .singleton (by decide) href
      simp only [backgroundInserts, backgroundClasses, hr]
      exact himage.append hsize

lemma isKeyword_borderWidthClass (w : Float) : IsKeyword (borderWidthClass w) := by
  unfold borderWidthClass
  split_ifs
  · decide
  · exact IsKeyword.append (by decide) isClassChar_of_mem_formatNumber
  · exact (IsKeyword.append (by decide) isClassChar_of_mem_formatNumber).append (by decide)

lemma spells_borderClasses (b : Border) :
    Spells (colorInserts t b.color) (borderClasses t b).1 := by
  have hstyle : Spells [] (Classes.texts [some (borderWidthClass b.width),
      if b.style == .dashed then some "border-dashed" else none]).1 := by
    refine Classes.spells_texts ?_
    simp only [List.forall_mem_cons]
    refine ⟨?_,?_,List.forall_mem_nil _⟩
    · simp [isKeyword_borderWidthClass]
    · split <;> simp +decide
  exact hstyle.append (spells_colorClass (by decide) b.color)

lemma spells_keyedClass {stem : String} {v : TokenValue} (hs : IsKeyword stem) (hv : IsEntry v) :
    Spells v.inserts [keyedClass stem v] := by
  refine ⟨List.forall_mem_singleton.mpr ?_,?_⟩
  · have happend : ∀ u : String, stem ++ u ≠ "" := fun u he =>
      hs.1 (String.append_eq_empty_iff.mp he).1
    cases hv with
    | token key css ht =>
      unfold keyedClass
      dsimp only
      split
      · exact hs.1
      · rw [String.append_assoc]
        exact happend _
    | raw hcss =>
      rw [keyedClass, String.append_assoc]
      exact happend _
  · rw [List.flatMap_singleton]
    exact foreign_keyedClass hs.foreign_eq_nil hv

lemma spells_radiusClasses (r : Radius) :
    Spells ((radii r).flatMap fun x => (matchRadius t x).1.inserts) (radiusClasses t r).1 := by
  have hentry (x : Float) : IsEntry (matchRadius t x).1 := isEntry_matchLength (by decide) _ x
  cases r with
  | uniform r =>
    rw [radii, List.flatMap_singleton]
    exact spells_keyedClass (by decide) (hentry r)
  | corners c =>
    have hcorners : ∀ corner ∈ ["tl","tr","br","bl"], IsKeyword ("rounded-" ++ corner) := by decide
    have hzip : radii (.corners c) = (["tl","tr","br","bl"].zip c.toList).map (·.2) := rfl
    rw [hzip, List.flatMap_map]
    exact Classes.spells_join_map fun e he =>
      spells_keyedClass (hcorners _ (List.of_mem_zip he).1) (hentry e.2)

lemma isKeyword_opacityClass (opacity : Float) : IsKeyword (opacityClass opacity) := by
  unfold opacityClass
  dsimp only
  split
  · exact IsKeyword.append (by decide) isClassChar_of_mem_write
  · exact (IsKeyword.append (by decide) isClassChar_of_mem_formatNumber).append (by decide)

theorem spells_lookClasses (s : Style) : Spells (lookInserts t s) (lookClasses t s).1 := by
  have hshadows : Spells (if s.shadows.isEmpty then [] else (matchShadows t s.shadows).1.inserts)
      (if s.shadows.isEmpty then Classes.none
        else Classes.matched (keyedClass "shadow") (matchShadows t s.shadows)).1 := by
    split
    · exact .nil
    · exact spells_keyedClass (by decide) (isEntry_matchShadows t s.shadows)
  have hrest : Spells [] (Classes.texts [s.opacity.map opacityClass,
      if s.overflow == some .hidden then some "overflow-hidden" else none]).1 := by
    refine Classes.spells_texts ?_
    simp only [List.forall_mem_cons]
    refine ⟨?_,?_,List.forall_mem_nil _⟩
    · simp [isKeyword_opacityClass]
    · split <;> simp +decide
  have hbackground := Classes.spells_optional (a := s.background) fun b _ =>
    spells_backgroundClasses (t := t) b
  have hborder := Classes.spells_optional (a := s.border) fun b _ => spells_borderClasses (t := t) b
  have hradius := Classes.spells_optional (a := s.borderRadius) fun r _ =>
    spells_radiusClasses (t := t) r
  have hlook := hbackground.append (hborder.append (hradius.append (hshadows.append hrest)))
  simpa only [lookClasses, lookInserts, Classes.join_fst, List.flatMap_cons, List.flatMap_nil,
    List.append_nil, List.append_assoc] using hlook

/-! ## Font -/

lemma isKeyword_weightClass (weight : ℕ) : IsKeyword (weightClass weight) := by
  have hnames : ∀ e ∈ weightNames, IsKeyword ("font-" ++ e.2) := by decide
  unfold weightClass
  split
  · next name hn =>
    obtain ⟨e,he,rfl⟩ := Option.map_eq_some_iff.mp hn
    exact hnames e (List.mem_of_find?_eq_some he)
  · exact (IsKeyword.append (by decide) isClassChar_of_mem_toString).append (by decide)

lemma isKeyword_textTransform (c : TextTransform) : IsKeyword c.css := by cases c <;> decide

lemma isKeyword_decorationLine (d : TextDecorationLine) : IsKeyword d.css := by cases d <;> decide

/-- A length in brackets. -/
lemma isKeyword_pixels {stem : String} (hs : IsKeyword stem) (x : Float) :
    IsKeyword (stem ++ formatNumber x ++ "px]") :=
  (hs.append isClassChar_of_mem_formatNumber).append (by decide)

theorem spells_fontClasses (f : Font) : Spells (fontInserts t f) (fontClasses t f).1 := by
  have hfamily : Spells (f.family.toList.map .free)
      (Classes.texts [f.family.map fun name => "font-['" ++ arbitrary name ++ "']"]).1 := by
    cases f.family with
    | none => exact .nil
    | some name =>
      have hname : foreign (arbitrary name ++ "']") = foreignOf [.free name] := by
        have hclose : foreign "']" = [] := by decide
        rw [foreign_append, hclose]
        rfl
      have hclass : Spells [.free name] ["font-['" ++ arbitrary name ++ "']"] := by
        rw [String.append_assoc]
        exact .singleton (by decide) hname
      exact hclass
  have hsize : Spells (matchFontSize t f.size).1.inserts
      (Classes.matched (fun v => "text-" ++ keySuffix v) (matchFontSize t f.size)).1 :=
    .singleton (by decide) (foreign_keySuffix (isEntry_matchFontSize t f.size))
  have halign : ∀ a, ∀ s ∈ textAlignClass a, IsKeyword s := by
    rintro (_ | _ | _ | _) <;> simp +decide
  have hrest : Spells [] (Classes.texts [
      if f.weight == 400 then none else some (weightClass f.weight),
      if f.italic then some "italic" else none,
      f.lineHeight.map fun x => "leading-[" ++ formatNumber x ++ "px]",
      f.letterSpacing.map fun x => "tracking-[" ++ formatNumber x ++ "px]",
      f.align.bind textAlignClass,
      f.transform.map TextTransform.css,
      f.decoration.map TextDecorationLine.css]).1 := by
    refine Classes.spells_texts ?_
    simp only [List.forall_mem_cons]
    refine ⟨?_,?_,?_,?_,?_,?_,?_,List.forall_mem_nil _⟩
    · split <;> simp [isKeyword_weightClass]
    · split <;> simp +decide
    · simp +decide [isKeyword_pixels]
    · simp +decide [isKeyword_pixels]
    · intro s hs
      obtain ⟨a,-,ha⟩ := Option.mem_bind_iff.mp hs
      exact halign a s ha
    · simp [isKeyword_textTransform]
    · simp [isKeyword_decorationLine]
  have hcolor : Spells (f.color.toList.flatMap (colorInserts t))
      (Classes.optional f.color (colorClass t "text")).1 :=
    Classes.spells_optional fun c _ => spells_colorClass (by decide) c
  have hfont := hfamily.append (hsize.append (hrest.append hcolor))
  simpa only [fontClasses, fontInserts, Classes.join_fst, List.flatMap_cons, List.flatMap_nil,
    List.append_nil, List.nil_append, List.append_assoc] using hfont

/-- The classes of an element are spelled with the texts that are inserted for it. -/
theorem spells_utilityClasses (t : TokenTable) (h : ElementHead) :
    Spells (inserts t h) (utilityClasses t h).1 := by
  have hclasses := (spells_layoutClasses (t := t) h.layout).append
    ((spells_lookClasses (t := t) h.style).append
      (Classes.spells_optional (a := h.style.font) fun f _ => spells_fontClasses (t := t) f))
  simpa only [utilityClasses, inserts, Classes.join_fst, List.flatMap_cons, List.flatMap_nil,
    List.append_nil, List.append_assoc] using hclasses

/-! ## Where the inserted texts come from -/

lemma forall_mem_inserts_gradient {P : Insert → Prop}
    (hkeys : ∀ v, Matched t v → ∀ i ∈ v.inserts, P i) (g : Gradient) :
    ∀ i ∈ backgroundInserts t (.gradient g), P i := by
  unfold backgroundInserts
  dsimp only
  obtain ⟨d,a,b,hg⟩ | hg := matchGradient_cases t g
  · rw [hg]
    exact List.forall_mem_append.mpr ⟨hkeys _ (.color a),hkeys _ (.color b)⟩
  · rw [hg]
    exact List.forall_mem_nil _

/-- What is inserted are parts of the paths of tokens that are found, and texts of the style. -/
theorem forall_mem_inserts {P : Insert → Prop} {h : ElementHead}
    (hkeys : ∀ v, Matched t v → ∀ i ∈ v.inserts, P i)
    (htexts : ∀ s ∈ h.style.rawTexts, P (.free s)) : ∀ i ∈ inserts t h, P i := by
  have hbackground : ∀ b ∈ h.style.background, ∀ i ∈ backgroundInserts t b, P i := by
    intro b hb
    cases b with
    | solid c => exact hkeys _ (.color c)
    | gradient g => exact forall_mem_inserts_gradient hkeys g
    | image i =>
      exact List.forall_mem_map.mpr fun r hr => htexts r (Style.mem_rawTexts_of_background hb hr)
  have hfamily : ∀ f ∈ h.style.font, ∀ name ∈ f.family, P (.free name) := fun f hf name hname =>
    htexts name (Style.mem_rawTexts_of_family hf hname)
  have hshadows : ∀ i ∈ if h.style.shadows.isEmpty then []
      else (matchShadows t h.style.shadows).1.inserts, P i := by
    split
    · exact List.forall_mem_nil _
    · exact hkeys _ (.shadows _)
  simp only [inserts, lookInserts, fontInserts, lengthInserts, List.forall_mem_append,
    List.forall_mem_flatMap, List.forall_mem_map, Option.mem_toList]
  refine ⟨⟨fun x _ => hkeys _ (.spacing x),⟨⟨hbackground,fun b _ => hkeys _ (.color b.color)⟩,
    fun r _ x _ => hkeys _ (.radius x)⟩,hshadows⟩,fun f hf => ⟨⟨hfamily f hf,
    hkeys _ (.fontSize f.size)⟩,fun c _ => hkeys _ (.color c)⟩⟩

/-- All classes of an element stand on one line when the texts of its style and of the token table
do. -/
theorem allOneLine_utilityClasses (ht : AllOneLine t.rawTexts) {h : ElementHead}
    (hs : AllOneLine h.style.rawTexts) : AllOneLine (utilityClasses t h).1 := by
  have hclass : ∀ c, isClassChar c = true → c ≠ '\n' := by
    rintro _ hc rfl
    exact absurd hc (by decide)
  have hlines : ∀ s, OneLine s ↔ ∀ c ∈ s.toList, c ≠ '\n' := fun s =>
    ⟨fun h c hc he => h (he ▸ hc),fun h hc => h _ hc rfl⟩
  have hspelled := (spells_utilityClasses t h).forall_iff hclass
  simp only [← hlines] at hspelled
  refine hspelled.mpr (forall_mem_inserts ?_ ?_)
  · intro v hv
    have htexts := allOneLine_of_matched ht hv
    cases v with
    | token path css => exact List.forall_mem_map.mpr (allOneLine_cons.mp htexts).2
    | raw css => exact List.forall_mem_nil _
  · intro s hmem hc
    obtain ⟨hc,-⟩ | ⟨hc,-⟩ := mem_arbitrary.mp hc
    · exact hs s hmem hc
    · exact absurd hc (by decide)

end

end DesignCompiler.Styling
