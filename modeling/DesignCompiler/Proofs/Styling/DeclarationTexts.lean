import DesignCompiler.Proofs.Styling.Classes
import DesignCompiler.Proofs.Styling.Hits

/-! The texts in the declarations of an element. The properties are fixed, and the values have two
texts of the style as they are; everything else is written from numbers and fixed words. -/
namespace DesignCompiler.Styling
open Text Tokens

/-- The properties that are declared. -/
def propertyNames : List String :=
  ["display","position","top","right","bottom","left","flex-direction","flex-wrap","gap","row-gap",
    "column-gap","padding","justify-content","align-items","width","height","background-color",
    "background","background-image","background-size","background-position","border",
    "border-radius","box-shadow","opacity","overflow","font-family","font-size","font-weight",
    "font-style","line-height","letter-spacing","text-align","text-transform","text-decoration",
    "color"]

/-- A declaration of one of the properties, whose texts consist of characters of a kind. The tokens
in it are left aside. -/
structure Declaration.WrittenIn (P : Char → Prop) (d : Declaration) : Prop where
  property : d.property ∈ propertyNames
  texts : ∀ s, .text s ∈ d.parts → ∀ c ∈ s.toList, P c

namespace Sheet
variable {P : Char → Prop} {a b : Sheet} {property : String}

/-- A sheet whose texts consist of characters of a kind. -/
def WrittenIn (P : Char → Prop) (sh : Sheet) : Prop := ∀ d ∈ sh.1, d.WrittenIn P

lemma writtenIn_none : none.WrittenIn P := List.forall_mem_nil _

lemma WrittenIn.append (ha : a.WrittenIn P) (hb : b.WrittenIn P) : (a.append b).WrittenIn P :=
  List.forall_mem_append.mpr ⟨ha,hb⟩

lemma writtenIn_foldl {sheets : List Sheet} (h : ∀ x ∈ sheets, x.WrittenIn P) {start : Sheet}
    (hs : start.WrittenIn P) : Sheet.WrittenIn P (sheets.foldl append start) := by
  induction sheets generalizing start with
  | nil => exact hs
  | cons x sheets ih =>
    obtain ⟨hx,hsheets⟩ := List.forall_mem_cons.mp h
    exact ih hsheets (hs.append hx)

lemma writtenIn_join {sheets : List Sheet} (h : ∀ x ∈ sheets, x.WrittenIn P) :
    (join sheets).WrittenIn P :=
  writtenIn_foldl h writtenIn_none

lemma writtenIn_optional {α : Type} {x : Option α} {f : α → Sheet}
    (h : ∀ y ∈ x, (f y).WrittenIn P) : (optional x f).WrittenIn P := by
  cases x with
  | none => exact writtenIn_none
  | some y => exact h y rfl

lemma writtenIn_matched (hp : property ∈ propertyNames) (v : Counted TokenValue) :
    (matched property v).WrittenIn P :=
  List.forall_mem_singleton.mpr ⟨hp,fun _ hs => nomatch List.mem_singleton.mp hs⟩

lemma writtenIn_matchedList (hp : property ∈ propertyNames) (hspace : P ' ')
    (vs : List (Counted TokenValue)) : (matchedList property vs).WrittenIn P := by
  refine List.forall_mem_singleton.mpr ⟨hp,?_⟩
  change ∀ s, .text s ∈ (vs.map fun v => ValuePart.token v.1).intersperse (.text " ") → _
  induction vs with
  | nil => exact fun s hs => nomatch hs
  | cons v vs ih =>
    cases vs with
    | nil => exact fun s hs => nomatch List.mem_singleton.mp hs
    | cons w vs =>
      intro s hs
      rw [List.map_cons, List.map_cons, List.intersperse_cons_cons, List.mem_cons,
        List.mem_cons] at hs
      obtain hs | hs | hs := hs
      · contradiction
      · cases hs
        exact List.forall_mem_singleton.mpr hspace
      · exact ih s hs

lemma writtenIn_texts {entries : List (String × Option String)}
    (h : ∀ e ∈ entries, e.1 ∈ propertyNames ∧ ∀ v ∈ e.2, ∀ c ∈ v.toList, P c) :
    (texts entries).WrittenIn P := by
  intro d hd
  obtain ⟨e,he,hd⟩ := List.mem_filterMap.mp hd
  obtain ⟨v,hv,rfl⟩ := Option.map_eq_some_iff.mp hd
  obtain ⟨hp,hvalue⟩ := h e he
  refine ⟨hp,fun s hs => ?_⟩
  cases List.mem_singleton.mp hs
  exact hvalue v hv

end Sheet

/-- Whether characters of a kind are all those of which values are written. -/
def HoldsOfValues (P : Char → Prop) : Prop := ∀ c, c = ' ' ∨ isClassChar c = true → P c

section
variable {t : TokenTable} {P : Char → Prop} (hP : HoldsOfValues P)
include hP

lemma HoldsOfValues.of_isValueText {s : String} (hs : IsValueText s) : ∀ c ∈ s.toList, P c :=
  fun c hc => hP c (hs c hc)

lemma writtenIn_valueTexts {entries : List (String × Option String)}
    (h : ∀ e ∈ entries, e.1 ∈ propertyNames ∧ ∀ v ∈ e.2, IsValueText v) :
    (Sheet.texts entries).WrittenIn P :=
  Sheet.writtenIn_texts fun e he =>
    ⟨(h e he).1,fun v hv => hP.of_isValueText ((h e he).2 v hv)⟩

lemma writtenIn_layoutSheet (l : Layout) : (layoutSheet t l).WrittenIn P := by
  have hspacing : ∀ {property : String} (x : Option Float), property ∈ propertyNames →
      (Sheet.optional x fun x => .matched property (matchSpacing t x)).WrittenIn P := fun x hp =>
    Sheet.writtenIn_optional fun y _ => Sheet.writtenIn_matched hp _
  have hdistance : ∀ x : Option Float, ∀ v ∈ x.map px, IsValueText v := by
    intro x v hv
    obtain ⟨y,-,rfl⟩ := Option.map_eq_some_iff.mp hv
    exact isValueText_px y
  have hdirection : ∀ d : FlexDirection, IsValueText d.css := by rintro (_ | _) <;> decide
  have hjustify : ∀ j : Justify, IsValueText j.css := by rintro (_ | _ | _ | _) <;> decide
  have halign : ∀ a : Align, IsValueText a.css := by rintro (_ | _ | _ | _) <;> decide
  have hextent : ∀ e : Extent, ∀ v ∈ extentText e, IsValueText v := by
    rintro (x | _ | _ | _) <;> simp +decide [extentText, isValueText_px]
  refine Sheet.writtenIn_join ?_
  simp only [List.forall_mem_cons]
  refine ⟨writtenIn_valueTexts hP ?_,hspacing _ (by decide),hspacing _ (by decide),
    hspacing _ (by decide),
    Sheet.writtenIn_optional fun p _ => Sheet.writtenIn_matchedList (by decide) (hP ' ' (.inl rfl)) _,
    writtenIn_valueTexts hP ?_,List.forall_mem_nil _⟩
  · simp only [List.forall_mem_cons]
    refine ⟨⟨by decide,?_⟩,⟨by decide,?_⟩,⟨by decide,hdistance _⟩,⟨by decide,hdistance _⟩,
      ⟨by decide,hdistance _⟩,⟨by decide,hdistance _⟩,⟨by decide,?_⟩,⟨by decide,?_⟩,
      List.forall_mem_nil _⟩
    · cases l.display <;> simp +decide
    · split <;> simp [(isKeyword_position _).isValueText]
    · simp [hdirection]
    · split <;> simp +decide
  · simp only [List.forall_mem_cons]
    refine ⟨⟨by decide,?_⟩,⟨by decide,?_⟩,⟨by decide,hextent _⟩,⟨by decide,hextent _⟩,
      List.forall_mem_nil _⟩
    · simp [hjustify]
    · simp [halign]

lemma writtenIn_backgroundSheet (hquote : P '"') {b : Background}
    (hb : ∀ r ∈ b.rawTexts, ∀ c ∈ r.toList, P c) : (backgroundSheet t b).WrittenIn P := by
  cases b with
  | solid c => exact Sheet.writtenIn_matched (by decide) _
  | gradient g =>
    have hkeyword : ∀ d : Direction, IsValueText d.keyword := by
      rintro (_ | _ | _ | _ | _ | _ | _ | _) <;> decide
    have hproperty : "background" ∈ propertyNames := by decide
    unfold backgroundSheet
    dsimp only
    split
    · next d start stop tally he =>
      have hopening : IsValueText ("linear-gradient(" ++ d.keyword ++ ", ") := by
        simp +decide only [isValueText_append, hkeyword, and_self]
      refine List.forall_mem_singleton.mpr ⟨hproperty,fun s hs => hP.of_isValueText ?_⟩
      simp only [List.mem_cons, ValuePart.text.injEq, reduceCtorEq, false_or, List.not_mem_nil,
        or_false] at hs
      obtain rfl | rfl | rfl := hs
      · exact hopening
      · decide
      · decide
    · next css tally he =>
      refine List.forall_mem_singleton.mpr ⟨hproperty,fun s hs => hP.of_isValueText ?_⟩
      cases List.mem_singleton.mp hs
      obtain ⟨d,a,b,h⟩ | h := matchGradient_cases t g
      · cases (congrArg Prod.fst he).symm.trans h
      · cases (congrArg Prod.fst he).symm.trans h
        exact isValueText_gradientText g (List.forall_mem_map.mpr fun s _ => isValueText_toCss s.color)
  | image i =>
    refine Sheet.writtenIn_texts ?_
    simp only [List.forall_mem_cons]
    refine ⟨⟨by decide,?_⟩,⟨by decide,?_⟩,⟨by decide,?_⟩,List.forall_mem_nil _⟩
    · intro v hv
      obtain ⟨r,hr,rfl⟩ := Option.map_eq_some_iff.mp hv
      have hraw := hb r (Option.mem_toList.mpr hr)
      have hurl : "url(\"".toList = "url(".toList ++ ['"'] := rfl
      have hend : "\")".toList = ['"',')'] := rfl
      rw [String.toList_append, String.toList_append, hurl, hend]
      simp only [List.forall_mem_append, List.forall_mem_cons]
      exact ⟨⟨⟨hP.of_isValueText (by decide),hquote,List.forall_mem_nil _⟩,hraw⟩,hquote,
        hP ')' (.inr (by decide)),List.forall_mem_nil _⟩
    · rintro _ ⟨⟩
      exact hP.of_isValueText (by decide)
    · rintro _ ⟨⟩
      exact hP.of_isValueText (by decide)

lemma writtenIn_borderSheet (b : Border) : (borderSheet t b).WrittenIn P := by
  have hline : ∀ s, IsValueText (borderLine s) := by rintro (_ | _) <;> decide
  refine List.forall_mem_singleton.mpr ⟨(by decide : "border" ∈ propertyNames),fun s hs => ?_⟩
  simp only [List.mem_cons, ValuePart.text.injEq, reduceCtorEq, List.not_mem_nil, or_false] at hs
  rw [hs]
  refine hP.of_isValueText ?_
  simp +decide only [isValueText_append, isValueText_px, hline, and_self]

lemma writtenIn_radiusSheet (r : Radius) : (radiusSheet t r).WrittenIn P := by
  cases r with
  | uniform r => exact Sheet.writtenIn_matched (by decide) _
  | corners c =>
    refine writtenIn_valueTexts hP (List.forall_mem_singleton.mpr
      ⟨(by decide : "border-radius" ∈ propertyNames),?_⟩)
    intro v hv
    rw [← Option.mem_some_iff.mp hv]
    exact isValueText_intercalate (by decide) (List.forall_mem_map.mpr fun x _ => isValueText_px x)

lemma writtenIn_fontSheet {f : Font} (hf : ∀ name ∈ f.family, ∀ c ∈ name.toList, P c) :
    (fontSheet t f).WrittenIn P := by
  have halign : ∀ a : TextAlign, IsValueText a.css := by rintro (_ | _ | _ | _) <;> decide
  refine Sheet.writtenIn_join ?_
  simp only [List.forall_mem_cons]
  refine ⟨Sheet.writtenIn_texts (List.forall_mem_singleton.mpr
      ⟨(by decide : "font-family" ∈ propertyNames),?_⟩),
    Sheet.writtenIn_matched (by decide) _,writtenIn_valueTexts hP ?_,
    Sheet.writtenIn_optional fun c _ => Sheet.writtenIn_matched (by decide) _,
    List.forall_mem_nil _⟩
  · intro v hv
    obtain ⟨name,hname,rfl⟩ := Option.map_eq_some_iff.mp hv
    have hopen : ∀ c ∈ "'".toList, P c := hP.of_isValueText (by decide)
    have hclose : ∀ c ∈ "', sans-serif".toList, P c := hP.of_isValueText (by decide)
    rw [String.toList_append, String.toList_append, List.forall_mem_append, List.forall_mem_append]
    exact ⟨⟨hopen,hf name hname⟩,hclose⟩
  · simp only [List.forall_mem_cons]
    refine ⟨⟨by decide,?_⟩,⟨by decide,?_⟩,⟨by decide,?_⟩,⟨by decide,?_⟩,⟨by decide,?_⟩,
      ⟨by decide,?_⟩,⟨by decide,?_⟩,List.forall_mem_nil _⟩
    · split
      · exact fun _ hv => nomatch hv
      · intro v hv
        rw [← Option.mem_some_iff.mp hv]
        exact isValueText_of_forall isClassChar_of_mem_toString
    · split <;> simp +decide
    · simp [isValueText_px]
    · simp [isValueText_px]
    · simp [halign]
    · simp [(isKeyword_textTransform _).isValueText]
    · simp [(isKeyword_decorationLine _).isValueText]

lemma writtenIn_lookSheet (hquote : P '"') {s : Style}
    (hs : ∀ r ∈ s.rawTexts, ∀ c ∈ r.toList, P c) : (lookSheet t s).WrittenIn P := by
  have hoverflow : ∀ x : Overflow, IsValueText x.css := by rintro (_ | _) <;> decide
  have hbackground : ∀ b ∈ s.background, ∀ r ∈ b.rawTexts, ∀ c ∈ r.toList, P c :=
    fun b hb r hr => hs r (Style.mem_rawTexts_of_background hb hr)
  have hfamily : ∀ f ∈ s.font, ∀ name ∈ f.family, ∀ c ∈ name.toList, P c :=
    fun f hf name hname => hs name (Style.mem_rawTexts_of_family hf hname)
  refine Sheet.writtenIn_join ?_
  simp only [List.forall_mem_cons]
  refine ⟨Sheet.writtenIn_optional fun b hb => writtenIn_backgroundSheet hP hquote (hbackground b hb),
    Sheet.writtenIn_optional fun b _ => writtenIn_borderSheet hP b,
    Sheet.writtenIn_optional fun r _ => writtenIn_radiusSheet hP r,?_,writtenIn_valueTexts hP ?_,
    Sheet.writtenIn_optional fun f hf => writtenIn_fontSheet hP (hfamily f hf),
    List.forall_mem_nil _⟩
  · split
    · exact Sheet.writtenIn_none
    · exact Sheet.writtenIn_matched (by decide) _
  · simp only [List.forall_mem_cons]
    refine ⟨⟨by decide,?_⟩,⟨by decide,?_⟩,List.forall_mem_nil _⟩
    · simp [isValueText_formatNumber]
    · simp [hoverflow]

/-- The texts in the declarations of an element consist of the characters of values, of quotes, and
of what the texts of its style consist of. -/
theorem writtenIn_declarations (hquote : P '"') {h : ElementHead}
    (hs : ∀ r ∈ h.style.rawTexts, ∀ c ∈ r.toList, P c) : (declarations t h).WrittenIn P :=
  (writtenIn_layoutSheet hP _).append (writtenIn_lookSheet hP hquote hs)

end

end DesignCompiler.Styling
