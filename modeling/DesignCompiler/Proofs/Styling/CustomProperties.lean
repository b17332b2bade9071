import DesignCompiler.Proofs.Json.Table
import DesignCompiler.Proofs.Styling.Values
import DesignCompiler.Proofs.Text.Ascii
import DesignCompiler.Proofs.Tokens.PropertyName
import DesignCompiler.Styling.Declarations
import DesignCompiler.Styling.TokenSheet
import DesignCompiler.Tokens.Standard
import Mathlib.Data.List.DropRight
import Mathlib.Data.List.Nodup

/-! Custom properties keep the values of tokens. The style sheet of a table is read back, and the
property to which a matched value refers is declared there once, with that value up to the case of
ASCII letters. This holds of tables whose tokens have different properties and whose texts do not
end a declaration; sheets are read without regard to strings and comments. -/
namespace DesignCompiler
open Text

namespace Styling
open Tokens

/-! ## Reading style sheets -/

/-- What stands between the braces of the first rule of a style sheet. -/
def ruleBody? (sheet : List Char) : Option (List Char) := do
  let (_,rest) ← cutAt '\x7b' sheet
  let (body,_) ← cutAt '\x7d' rest
  return body

/-- A declaration: a name, a colon and a blank, and a value. -/
def readDeclaration? (cs : List Char) : Option (String × String) :=
  match cutAt ':' (skipBlanks cs) with
  | some (name,' ' :: value) => some (String.ofList name,String.ofList value)
  | _ => none

/-- The declarations of the first rule of a style sheet, each of which ends with a semicolon. -/
def readSheet (sheet : String) : List (String × String) :=
  match ruleBody? sheet.toList with
  | some body => (body.splitOn ';').filterMap readDeclaration?
  | none => []

/-- Nothing in a text ends the name of a property, where it is declared or where it is referred to.
-/
def FitsName (s : String) : Prop := ∀ c ∈ [':',';','\x7d',')'], c ∉ s.toList

/-- Nothing in a text ends the value of a property. -/
def FitsValue (s : String) : Prop := ∀ c ∈ [';','\x7d'], c ∉ s.toList

instance (s : String) : Decidable (FitsName s) := List.decidableBAll _ _

instance (s : String) : Decidable (FitsValue s) := List.decidableBAll _ _

/-- A declaration as it stands in a sheet, without its semicolon. -/
def declarationChars (d : String × String) : List Char :=
  "\n  ".toList ++ (d.1.toList ++ ':' :: ' ' :: d.2.toList)

/-- The body of a rule. -/
def bodyChars (ds : List (String × String)) : List Char :=
  (ds.flatMap fun d => declarationChars d ++ [';']) ++ ['\n']

/-- A declaration of a custom property that can be read back. -/
structure IsDeclaration (d : String × String) : Prop where
  hyphen : ['-'].isPrefixOf d.1.toList = true
  name : FitsName d.1
  value : FitsValue d.2

section
variable {d : String × String} {ds : List (String × String)}

/-- Nothing in a declaration ends it or its rule. -/
lemma IsDeclaration.fitsValue (hd : IsDeclaration d) :
    ∀ c ∈ [';','\x7d'], c ∉ declarationChars d := by
  have hmarks : ∀ c ∈ [';','\x7d'],
      c ∈ [':',';','\x7d',')'] ∧ c ∉ "\n  ".toList ∧ c ≠ ':' ∧ c ≠ ' ' := by decide
  intro c hc
  obtain ⟨hname,hindent,hcolon,hblank⟩ := hmarks c hc
  simp only [declarationChars, List.mem_append, List.mem_cons, not_or]
  exact ⟨hindent,hd.name c hname,hcolon,hblank,hd.value c hc⟩

lemma readDeclaration?_declarationChars (hd : IsDeclaration d) :
    readDeclaration? (declarationChars d) = some d := by
  have hskip : skipBlanks (declarationChars d) = d.1.toList ++ ':' :: ' ' :: d.2.toList := by
    obtain ⟨cs,hcs⟩ := List.isPrefixOf_iff_prefix.mp hd.hyphen
    have hblank : ∀ c ∈ "\n  ".toList, isBlank c = true := by decide
    rw [declarationChars, skipBlanks, List.dropWhile_append_of_pos hblank, ← hcs]
    rfl
  rw [readDeclaration?, hskip, cutAt_append (hd.name ':' List.mem_cons_self)]
  simp only [String.ofList_toList]

lemma splitOn_bodyChars (hd : ∀ d ∈ ds, IsDeclaration d) :
    (bodyChars ds).splitOn ';' = ds.map declarationChars ++ [['\n']] := by
  induction ds with
  | nil => decide
  | cons d ds ih =>
    obtain ⟨hd,hds⟩ := List.forall_mem_cons.mp hd
    have hcons : bodyChars (d :: ds) = declarationChars d ++ ';' :: bodyChars ds := by
      simp [bodyChars]
    have hfirst := hd.fitsValue ';' List.mem_cons_self
    rw [hcons, List.splitOn_append_cons_self_of_not_mem hfirst, ih hds]
    rfl

/-- The declarations of a rule are read back in their order. -/
lemma readSheet_eq {sheet : String} {selector after : List Char} (hs : '\x7b' ∉ selector)
    (hsheet : sheet.toList = selector ++ '\x7b' :: (bodyChars ds ++ '\x7d' :: after))
    (hd : ∀ d ∈ ds, IsDeclaration d) : readSheet sheet = ds := by
  have hclose : '\x7d' ∉ bodyChars ds := by
    rw [bodyChars, List.mem_append, List.mem_flatMap, not_or]
    refine ⟨?_,by decide⟩
    rintro ⟨d,hmem,hbrace⟩
    rw [List.mem_append] at hbrace
    exact hbrace.elim ((hd d hmem).fitsValue '\x7d' (by decide)) (by decide)
  have hbody : ruleBody? sheet.toList = some (bodyChars ds) := by
    simp only [hsheet, ruleBody?, cutAt_append hs, cutAt_append hclose, Option.bind_eq_bind,
      Option.bind_some]
    rfl
  have hread : (ds.map declarationChars).filterMap readDeclaration? = ds := by
    rw [List.filterMap_map, List.filterMap_congr (g := some), List.filterMap_some]
    exact fun d hmem => readDeclaration?_declarationChars (hd d hmem)
  rw [readSheet, hbody]
  dsimp only
  rw [splitOn_bodyChars hd, List.filterMap_append, hread]
  exact List.append_nil ds

end

/-! ## The style sheet of a table -/

/-- The style sheet of a table is one rule. -/
lemma toList_tokenSheet (t : TokenTable) :
    (tokenSheet t).toList = ":root ".toList ++ '\x7b' ::
      (bodyChars ((declaredTokens t).map fun e => (declaredName e.1,e.2)) ++ '\x7d' :: ['\n']) := by
  have hopen : ":root \x7b".toList = ":root ".toList ++ ['\x7b'] := by decide
  have hclose : ["\x7d".toList,"".toList].flatMap ("\n".toList ++ ·) = ['\n','\x7d','\n'] := by
    decide
  rw [tokenSheet, ofLines, String.toList_intercalate, List.append_assoc, List.map_append,
    List.map_singleton, List.singleton_append, intercalate_cons_eq_flatMap, List.map_append,
    List.flatMap_append, List.map_map, List.flatMap_map, hopen]
  simp [bodyChars, declarationChars, List.flatMap_map]

/-- A name without closing parentheses is declared as it is referred to. -/
lemma declaredName_eq {p : TokenPath} (h : ')' ∉ p.propertyName.toList) :
    declaredName p = p.propertyName := by
  have hend : p.propertyName.toList.rdropWhile (· == ')') = p.propertyName.toList := by
    rw [List.rdropWhile_eq_self_iff]
    intro hne hlast
    have hmem := List.getLast_mem hne
    rw [eq_of_beq hlast] at hmem
    exact h hmem
  change String.ofList (p.propertyName.toList.rdropWhile _) = _
  rw [hend, String.ofList_toList]

/-- The declarations of a style sheet of tokens are those of its tokens, in their order. -/
theorem readSheet_tokenSheet {t : TokenTable}
    (hnames : ∀ e ∈ declaredTokens t, FitsName e.1.propertyName)
    (hvalues : ∀ e ∈ declaredTokens t, FitsValue e.2) :
    readSheet (tokenSheet t) = (declaredTokens t).map fun e => (e.1.propertyName,e.2) := by
  have hds : ((declaredTokens t).map fun e => (declaredName e.1,e.2)) =
      (declaredTokens t).map fun e => (e.1.propertyName,e.2) :=
    List.map_congr_left fun e he => by rw [declaredName_eq (hnames e he ')' (by decide))]
  have hsheet := toList_tokenSheet t
  rw [hds] at hsheet
  refine readSheet_eq (by decide) hsheet (List.forall_mem_map.mpr fun e he => ?_)
  exact ⟨by rw [TokenPath.toList_propertyName]; rfl,hnames e he,hvalues e he⟩

/-- A length ends no declaration. -/
lemma fitsValue_px (x : Float) : FitsValue (px x) := by
  have hends : ∀ c ∈ [';','\x7d'], ¬ (c = ' ' ∨ isClassChar c = true) := by decide
  exact fun c hc hmem => hends c hc (isValueText_px x c hmem)

end Styling

open Styling

/-- The tokens of a table have different properties, and nothing in their keys and values ends a
declaration or a reference. -/
structure Tokens.TokenTable.Declarable (t : Tokens.TokenTable) : Prop where
  distinct : ((declaredTokens t).map (·.1.propertyName)).Nodup
  keys : ∀ e ∈ declaredTokens t, ∀ s ∈ e.1.segments, FitsName s
  colors : ∀ e ∈ t.colorEntries, FitsValue e.2 ∧ CapitalsAreAscii e.2
  shadows : ∀ e ∈ t.shadows, FitsValue e.2

instance (t : Tokens.TokenTable) : Decidable t.Declarable :=
  decidable_of_iff (((declaredTokens t).map (·.1.propertyName)).Nodup ∧
    (∀ e ∈ declaredTokens t, ∀ s ∈ e.1.segments, FitsName s) ∧
    (∀ e ∈ t.colorEntries, FitsValue e.2 ∧ CapitalsAreAscii e.2) ∧
    ∀ e ∈ t.shadows, FitsValue e.2)
    ⟨fun h => ⟨h.1,h.2.1,h.2.2.1,h.2.2.2⟩,
      fun h => ⟨h.distinct,h.keys,h.colors,h.shadows⟩⟩

namespace Tokens

/-- Tokens whose paths are different and plain have different properties. -/
lemma TokenTable.nodup_propertyNames {t : TokenTable} (hp : ∀ e ∈ declaredTokens t, e.1.IsPlain)
    (hn : ((declaredTokens t).map (·.1)).Nodup) :
    ((declaredTokens t).map (·.1.propertyName)).Nodup := by
  have hnames : (declaredTokens t).map (·.1.propertyName) =
      ((declaredTokens t).map (·.1)).map TokenPath.propertyName := by
    rw [List.map_map]
    rfl
  rw [hnames]
  refine hn.map_on fun p hpath q hqath => ?_
  obtain ⟨e,he,rfl⟩ := List.mem_map.mp hpath
  obtain ⟨e',he',rfl⟩ := List.mem_map.mp hqath
  exact (TokenPath.propertyName_inj (hp e he) (hp e' he')).mp

/-- The standard tokens are declared with their values. -/
theorem TokenTable.declarable_standard : TokenTable.standard.Declarable where
  distinct := nodup_propertyNames (by decide +kernel) (by decide +kernel)
  keys := by decide +kernel
  colors := by decide +kernel
  shadows := by decide +kernel

end Tokens

namespace Styling
open Tokens

section
variable {t : TokenTable} {path : TokenPath} {css : String}

lemma fitsName_propertyName (h : ∀ s ∈ path.segments, FitsName s) :
    FitsName path.propertyName := by
  have hmarks : ∀ c ∈ [':',';','\x7d',')'], c ≠ '-' ∧ c ≠ '_' := by decide
  intro c hc hmem
  obtain rfl | rfl | ⟨s,hs,hcs⟩ := TokenPath.mem_propertyName hmem
  · exact (hmarks _ hc).1 rfl
  · exact (hmarks _ hc).2 rfl
  · exact h s hs c hc hcs

lemma mem_declaredTokens {e : TokenPath × String} :
    e ∈ declaredTokens t ↔ e ∈ t.colorEntries ∨
      (∃ x ∈ t.spacing, (⟨["spacing",x.1]⟩,px x.2) = e) ∨
      (∃ x ∈ t.borderRadius, (⟨["borderRadius",x.1]⟩,px x.2) = e) ∨
      (∃ x ∈ t.shadows, (⟨["shadows",x.1]⟩,x.2) = e) ∨
      ∃ x ∈ t.typography, (⟨["typography",x.1]⟩,px x.2.fontSize) = e := by
  simp only [declaredTokens, List.mem_append, List.mem_map, or_assoc]

lemma fitsValue_of_mem_declaredTokens (ht : t.Declarable) {e : TokenPath × String}
    (he : e ∈ declaredTokens t) : FitsValue e.2 := by
  obtain he | ⟨x,-,rfl⟩ | ⟨x,-,rfl⟩ | ⟨x,hx,rfl⟩ | ⟨x,-,rfl⟩ := mem_declaredTokens.mp he
  · exact (ht.colors e he).1
  · exact fitsValue_px x.2
  · exact fitsValue_px x.2
  · exact ht.shadows x hx
  · exact fitsValue_px x.2.fontSize

/-- A matched value is a color of the table in small letters, a declared token, or no token. -/
lemma matched_cases {v : TokenValue} (hv : Matched t v) :
    (∃ e ∈ t.colorEntries, v = .token e.1 (lower e.2)) ∨
      (∃ e ∈ declaredTokens t, v = .token e.1 e.2) ∨ ∃ css, v = .raw css := by
  cases hv with
  | color c => exact (matchColor_cases t c).imp_right fun h => .inr ⟨_,h⟩
  | spacing x =>
    obtain ⟨e,he,h⟩ | h := matchLength_cases "spacing" t.spacing x
    · exact .inr (.inl ⟨_,mem_declaredTokens.mpr (.inr (.inl ⟨e,he,rfl⟩)),h⟩)
    · exact .inr (.inr ⟨_,h⟩)
  | radius x =>
    obtain ⟨e,he,h⟩ | h := matchLength_cases "borderRadius" t.borderRadius x
    · exact .inr (.inl ⟨_,mem_declaredTokens.mpr (.inr (.inr (.inl ⟨e,he,rfl⟩))),h⟩)
    · exact .inr (.inr ⟨_,h⟩)
  | fontSize size =>
    obtain ⟨e,he,h⟩ | h := matchFontSize_cases t size
    · exact .inr (.inl ⟨_,mem_declaredTokens.mpr (.inr (.inr (.inr (.inr ⟨e,he,rfl⟩)))),h⟩)
    · exact .inr (.inr ⟨_,h⟩)
  | shadows shadows =>
    obtain ⟨e,he,h⟩ | h := matchShadows_cases t shadows
    · exact .inr (.inl ⟨_,mem_declaredTokens.mpr (.inr (.inr (.inr (.inl ⟨e,he,rfl⟩)))),h⟩)
    · exact .inr (.inr ⟨_,h⟩)

/-- A token that is matched is declared with its value, up to the case of ASCII letters. -/
lemma exists_declared_of_matched (ht : t.Declarable) (hv : Matched t (.token path css)) :
    ∃ value, (path,value) ∈ declaredTokens t ∧ sameIgnoringAsciiCase value css = true := by
  obtain ⟨e,he,h⟩ | ⟨e,he,h⟩ | ⟨_,h⟩ := matched_cases hv
  · cases h
    exact ⟨e.2,mem_declaredTokens.mpr (.inl he),sameIgnoringAsciiCase_lower (ht.colors e he).2⟩
  · cases h
    exact ⟨e.2,he,beq_self_eq_true _⟩
  · contradiction

/-- The property to which a matched token refers is declared once in the style sheet of the table,
with the value that the token has otherwise. -/
theorem custom_property_keeps_value (ht : t.Declarable) (hv : Matched t (.token path css)) :
    ∃ name value, ')' ∉ name.toList ∧
      TokenStyle.cssVar.render (.token path css) = "var(" ++ name ++ ")" ∧
      (readSheet (tokenSheet t)).filter (·.1 == name) = [(name,value)] ∧
      sameIgnoringAsciiCase value (TokenStyle.literal.render (.token path css)) = true := by
  obtain ⟨value,he,hvalue⟩ := exists_declared_of_matched ht hv
  have hnames : ∀ e ∈ declaredTokens t, FitsName e.1.propertyName := fun e he =>
    fitsName_propertyName (ht.keys e he)
  refine ⟨path.propertyName,value,hnames _ he ')' (by decide),rfl,?_,hvalue⟩
  rw [readSheet_tokenSheet hnames fun _ => fitsValue_of_mem_declaredTokens ht]
  refine Json.Decoder.filter_of_mem ?_ (List.mem_map.mpr ⟨_,he,rfl⟩)
  rw [List.map_map]
  exact ht.distinct

end

/-- A color whose digits are capitals in the table, of a group with a point in its name. -/
theorem custom_property_keeps_value_brand :
    let t : TokenTable := { TokenTable.empty with
      colors := [("brand.1",[("main","#AABBCC"),("light","#ddeeff")])]
      shadows := [("sm","0 1px 2px 0 rgba(0, 0, 0, 0.05)")] }
    let v : TokenValue := .token ⟨["colors","brand.1","main"]⟩ "#aabbcc"
    t.badColor? = none ∧ t.Declarable ∧ (matchColor t (Color.rgb 0xaa 0xbb 0xcc)).1 = v ∧
      TokenStyle.cssVar.render v = "var(--colors-brand_1-main)" ∧
      ∃ value, (readSheet (tokenSheet t)).filter (·.1 == "--colors-brand_1-main") =
          [("--colors-brand_1-main",value)] ∧
        sameIgnoringAsciiCase value "#aabbcc" = true := by
  intro t v
  have ht : t.Declarable := by decide +kernel
  have hmatch : (matchColor t (Color.rgb 0xaa 0xbb 0xcc)).1 = v := by decide +kernel
  have hvar : TokenStyle.cssVar.render v = "var(" ++ "--colors-brand_1-main" ++ ")" := by
    decide +kernel
  have hv : Matched t v := hmatch ▸ .color _
  obtain ⟨name,value,-,hname,hread,hvalue⟩ := custom_property_keeps_value ht hv
  rw [hvar, String.append_left_inj, String.append_right_inj] at hname
  subst hname
  exact ⟨by decide +kernel,ht,hmatch,hvar,value,hread,hvalue⟩

/-- The shades `a-b` of `brand` and `b` of `brand-a` have one property. It is declared twice, and
not with the value of the first in the end. -/
theorem shared_custom_property :
    let t : TokenTable := { TokenTable.empty with
      colors := [("brand",[("a-b","#000000")]),("brand-a",[("b","#ffffff")])] }
    let v : TokenValue := .token ⟨["colors","brand","a-b"]⟩ "#000000"
    t.badColor? = none ∧ (matchColor t (Color.rgb 0 0 0)).1 = v ∧
      TokenStyle.cssVar.render v = "var(--colors-brand-a-b)" ∧
      TokenStyle.literal.render v = "#000000" ∧
      (readSheet (tokenSheet t)).filter (·.1 == "--colors-brand-a-b") =
        [("--colors-brand-a-b","#000000"),("--colors-brand-a-b","#ffffff")] := by
  decide +kernel

end Styling

end DesignCompiler
