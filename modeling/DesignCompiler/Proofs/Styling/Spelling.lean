import DesignCompiler.Proofs.Styling.Values
import DesignCompiler.Styling.UtilityClasses

/-! How classes are spelled. Beside the characters that classes contain of themselves they contain
those of the texts that are inserted in them: the keys of tokens as they stand, and free texts with
their spaces escaped. -/
namespace DesignCompiler.Styling
open Text Tokens

/-! ## Texts in classes -/

/-- The characters of a text that classes do not contain of themselves. -/
def foreign (s : String) : List Char := s.toList.filter (!isClassChar ·)

@[simp] lemma foreign_append (s u : String) : foreign (s ++ u) = foreign s ++ foreign u := by
  rw [foreign, String.toList_append, List.filter_append]
  rfl

lemma foreign_eq_nil {s : String} (h : ∀ c ∈ s.toList, isClassChar c = true) :
    foreign s = [] := by
  refine List.filter_eq_nil_iff.mpr fun c hc => ?_
  rw [h c hc]
  decide

/-- What holds of the characters of classes holds of a text if it holds of its foreign ones. -/
lemma forall_mem_foreign {P : Char → Prop} (hp : ∀ c, isClassChar c = true → P c) (s : String) :
    (∀ c ∈ foreign s, P c) ↔ ∀ c ∈ s.toList, P c := by
  refine ⟨fun h c hc => ?_,fun h c hc => h c (List.mem_filter.mp hc).1⟩
  cases hclass : isClassChar c with
  | true => exact hp c hclass
  | false => exact h c (List.mem_filter.mpr ⟨hc,by rw [hclass]; rfl⟩)

lemma mem_joinCommas {c : Char} (hc : c ≠ ' ') (cs : List Char) : c ∈ joinCommas cs ↔ c ∈ cs := by
  induction cs using joinCommas.induct with
  | case1 cs ih => simp [joinCommas, ih, hc]
  | case2 d cs h ih => simp [joinCommas.eq_2 d cs h, ih]
  | case3 => exact Iff.rfl

lemma mem_arbitrary {c : Char} {css : String} : c ∈ (arbitrary css).toList ↔
    (c ∈ css.toList ∧ c ≠ ' ') ∨ (c = '_' ∧ ' ' ∈ joinCommas css.toList) := by
  have hescape : ∀ d : Char, (if (d == ' ') = true then '_' else d) = c ↔
      d = c ∧ d ≠ ' ' ∨ c = '_' ∧ d = ' ' := by
    intro d
    by_cases hd : d = ' '
    · simp [hd, eq_comm (a := '_')]
    · simp [hd]
  rw [arbitrary, String.toList_ofList, List.mem_map]
  constructor
  · rintro ⟨d,hd,he⟩
    obtain ⟨rfl,hne⟩ | ⟨rfl,rfl⟩ := (hescape d).mp he
    · exact .inl ⟨(mem_joinCommas hne _).mp hd,hne⟩
    · exact .inr ⟨rfl,hd⟩
  · rintro (⟨hc,hne⟩ | ⟨rfl,hblank⟩)
    · exact ⟨c,(mem_joinCommas hne _).mpr hc,(hescape c).mpr (.inl ⟨rfl,hne⟩)⟩
    · exact ⟨' ',hblank,(hescape ' ').mpr (.inr ⟨rfl,rfl⟩)⟩

/-- A value in brackets has no foreign characters. -/
lemma foreign_bracketed {css : String} (h : IsValueText css) : foreign (bracketed css) = [] := by
  have hcss : foreign (arbitrary css) = [] := by
    refine foreign_eq_nil fun c hc => ?_
    obtain ⟨hc,hne⟩ | ⟨rfl,-⟩ := mem_arbitrary.mp hc
    · exact (h c hc).resolve_left hne
    · decide
  rw [bracketed, foreign_append, foreign_append, hcss]
  decide

/-! ## Inserted texts -/

/-- A text that is inserted in a class. -/
inductive Insert where
  /-- A part of the path of a token, as it stands. -/
  | key (s : String)
  /-- A text of the design, with its spaces escaped. -/
  | free (s : String)

/-- The text as it is inserted. -/
def Insert.written : Insert → String
  | key s => s
  | free s => arbitrary s

/-- The foreign characters of inserted texts. -/
def foreignOf (is : List Insert) : List Char := is.flatMap fun i => foreign i.written

@[simp] lemma foreignOf_append (is js : List Insert) :
    foreignOf (is ++ js) = foreignOf is ++ foreignOf js := List.flatMap_append

/-- The path of a token is inserted; a literal is written in class characters. -/
def TokenValue.inserts : TokenValue → List Insert
  | token path _ => path.segments.map .key
  | raw _ => []

/-- A token under a key of a table, or a literal. -/
inductive IsEntry : TokenValue → Prop
  | token {table : String} (key css : String) : foreign table = [] →
      IsEntry (.token ⟨[table,key]⟩ css)
  | raw {css : String} : IsValueText css → IsEntry (.raw css)

/-- A shade of a group of colors, or a literal. -/
inductive IsShade : TokenValue → Prop
  | token (group shade css : String) : IsShade (.token ⟨["colors",group,shade]⟩ css)
  | raw {css : String} : IsValueText css → IsShade (.raw css)

section
variable (t : TokenTable)

lemma isEntry_matchLength {table : String} (ht : foreign table = [])
    (entries : List (String × Float)) (x : Float) : IsEntry (matchLength table entries x).1 := by
  obtain ⟨e,-,h⟩ | h := matchLength_cases table entries x
  · exact h ▸ .token e.1 _ ht
  · exact h ▸ .raw (isValueText_px x)

lemma isEntry_matchFontSize (size : Float) : IsEntry (matchFontSize t size).1 := by
  obtain ⟨e,-,h⟩ | h := matchFontSize_cases t size
  · exact h ▸ .token e.1 _ (by decide)
  · exact h ▸ .raw (isValueText_px size)

lemma isEntry_matchShadows (shadows : List Shadow) : IsEntry (matchShadows t shadows).1 := by
  obtain ⟨e,-,h⟩ | h := matchShadows_cases t shadows
  · exact h ▸ .token e.1 _ (by decide)
  · exact h ▸ .raw (isValueText_shadowsText shadows)

lemma isShade_matchColor (c : Color) : IsShade (matchColor t c).1 := by
  obtain ⟨e,he,h⟩ | h := matchColor_cases t c
  · obtain ⟨⟨group,shades⟩,-,he⟩ := List.mem_flatMap.mp he
    obtain ⟨⟨shade,value⟩,-,rfl⟩ := List.mem_map.mp he
    exact h ▸ .token group shade _
  · exact h ▸ .raw (isValueText_toCss c)

end

section
variable {v : TokenValue}

lemma foreignOf_entry {table key css : String} (ht : foreign table = []) :
    foreignOf (TokenValue.token ⟨[table,key]⟩ css).inserts = foreign key := by
  simp [foreignOf, TokenValue.inserts, Insert.written, ht]

lemma foreign_keySuffix (hv : IsEntry v) : foreign (keySuffix v) = foreignOf v.inserts := by
  cases hv with
  | token key css ht => exact (foreignOf_entry ht).symm
  | raw hcss => exact foreign_bracketed hcss

/-- A key that is left out has no foreign characters. -/
lemma foreign_keyedClass {stem : String} (hs : foreign stem = []) (hv : IsEntry v) :
    foreign (keyedClass stem v) = foreignOf v.inserts := by
  cases hv with
  | @token table key css ht =>
    have hkey : (TokenPath.mk [table,key]).key = key := rfl
    rw [foreignOf_entry ht, keyedClass, hkey]
    split
    · next hdefault =>
      rw [hs, eq_of_beq hdefault]
      decide
    · rw [foreign_append, foreign_append, hs]
      rfl
  | raw hcss =>
    rw [keyedClass, foreign_append, foreign_append, hs, foreign_bracketed hcss]
    rfl

lemma foreign_colorSuffix (hv : IsShade v) : foreign (colorSuffix v) = foreignOf v.inserts := by
  cases hv with
  | token group shade css =>
    have hpath : foreignOf (TokenValue.token ⟨["colors",group,shade]⟩ css).inserts =
        foreign group ++ foreign shade := by
      have hroot : foreign "colors" = [] := by decide
      simp [foreignOf, TokenValue.inserts, Insert.written, hroot]
    rw [hpath]
    unfold colorSuffix
    dsimp only
    by_cases hdefault : shade = "DEFAULT"
    · have hshade : foreign "DEFAULT" = [] := by decide
      rw [if_pos (beq_iff_eq.mpr hdefault), hdefault, hshade, List.append_nil]
    · have hhyphen : foreign "-" = [] := by decide
      rw [if_neg (mt eq_of_beq hdefault), foreign_append, foreign_append, hhyphen,
        List.append_nil]
  | raw hcss => exact foreign_bracketed hcss

end

/-! ## Classes with inserted texts -/

/-- A text that stands for itself in a class. -/
def IsKeyword (s : String) : Prop := s ≠ "" ∧ ∀ c ∈ s.toList, isClassChar c = true

instance (s : String) : Decidable (IsKeyword s) := inferInstanceAs (Decidable (_ ∧ _))

lemma IsKeyword.foreign_eq_nil {s : String} (h : IsKeyword s) : foreign s = [] :=
  Styling.foreign_eq_nil h.2

lemma IsKeyword.isValueText {s : String} (h : IsKeyword s) : IsValueText s :=
  isValueText_of_forall h.2

lemma IsKeyword.append {s u : String} (hs : IsKeyword s)
    (hu : ∀ c ∈ u.toList, isClassChar c = true) : IsKeyword (s ++ u) := by
  refine ⟨fun he => hs.1 (String.append_eq_empty_iff.mp he).1,?_⟩
  rw [String.toList_append, List.forall_mem_append]
  exact ⟨hs.2,hu⟩

/-- Classes are spelled with inserted texts: none is empty, and their foreign characters are those
of the texts. -/
structure Spells (is : List Insert) (cs : List String) : Prop where
  nonempty : ∀ s ∈ cs, s ≠ ""
  foreign : cs.flatMap foreign = foreignOf is

namespace Spells
variable {is js : List Insert} {cs ds : List String}

lemma nil : Spells [] [] := ⟨List.forall_mem_nil _,rfl⟩

lemma append (hc : Spells is cs) (hd : Spells js ds) : Spells (is ++ js) (cs ++ ds) := by
  refine ⟨List.forall_mem_append.mpr ⟨hc.nonempty,hd.nonempty⟩,?_⟩
  rw [List.flatMap_append, hc.foreign, hd.foreign, foreignOf_append]

lemma keywords (h : ∀ s ∈ cs, IsKeyword s) : Spells [] cs :=
  ⟨fun s hs => (h s hs).1,List.flatMap_eq_nil_iff.mpr fun s hs => (h s hs).foreign_eq_nil⟩

/-- A class that begins with a keyword. -/
lemma singleton {stem rest : String} (hs : IsKeyword stem)
    (hr : Styling.foreign rest = foreignOf is) : Spells is [stem ++ rest] := by
  refine ⟨List.forall_mem_singleton.mpr fun he => hs.1 (String.append_eq_empty_iff.mp he).1,?_⟩
  rw [List.flatMap_singleton, foreign_append, hs.foreign_eq_nil, hr]
  rfl

/-- What holds of the characters of classes holds of the classes exactly if it holds of the texts.
-/
theorem forall_iff {P : Char → Prop} (hp : ∀ c, isClassChar c = true → P c) (h : Spells is cs) :
    (∀ s ∈ cs, ∀ c ∈ s.toList, P c) ↔ ∀ i ∈ is, ∀ c ∈ i.written.toList, P c := by
  simp only [← forall_mem_foreign hp]
  rw [← List.forall_mem_flatMap, h.foreign, foreignOf, List.forall_mem_flatMap]

end Spells

namespace Classes

lemma join_fst (cs : List Classes) : (join cs).1 = cs.flatMap (·.1) := by
  have hfold : ∀ start : Classes, (cs.foldl append start).1 = start.1 ++ cs.flatMap (·.1) := by
    induction cs with
    | nil => intro start; exact (List.append_nil _).symm
    | cons c cs ih =>
      intro start
      rw [List.foldl_cons, ih, List.flatMap_cons, ← List.append_assoc]
      rfl
  exact hfold none

lemma spells_join_map {α : Type} {f : α → List Insert} {g : α → Classes} {xs : List α}
    (h : ∀ x ∈ xs, Spells (f x) (g x).1) : Spells (xs.flatMap f) (join (xs.map g)).1 := by
  rw [join_fst]
  induction xs with
  | nil => exact .nil
  | cons x xs ih =>
    obtain ⟨hx,hxs⟩ := List.forall_mem_cons.mp h
    exact hx.append (ih hxs)

lemma spells_texts {cs : List (Option String)} (h : ∀ c ∈ cs, ∀ s ∈ c, IsKeyword s) :
    Spells [] (texts cs).1 := by
  refine .keywords fun s hs => ?_
  obtain ⟨c,hc,hs⟩ := List.mem_filterMap.mp hs
  exact h c hc s hs

lemma spells_optional {α : Type} {a : Option α} {f : α → List Insert} {g : α → Classes}
    (h : ∀ x ∈ a, Spells (f x) (g x).1) : Spells (a.toList.flatMap f) (optional a g).1 := by
  cases a with
  | none => exact .nil
  | some x =>
    rw [Option.toList_some, List.flatMap_singleton]
    exact h x rfl

end Classes

end DesignCompiler.Styling
