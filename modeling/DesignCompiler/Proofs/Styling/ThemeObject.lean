import DesignCompiler.Proofs.Styling.CustomProperties
import DesignCompiler.Proofs.Tokens.Accessors

/-! Themes as objects. A reference to a token names keys that are followed in the data of the table.
It finds colors and shadows as they are written otherwise; lengths are numbers there, without their
unit, and text styles are objects. -/
namespace DesignCompiler

namespace Json.Value

/-- The value of a property of an object. The key `__proto__` names what an object inherits from. -/
def property? (key : String) (v : Value) : Option Value :=
  if key = "__proto__" then none else v.get? key

/-- The value to which properties lead, each of the value before. -/
def follow? : Value → List String → Option Value
  | v, [] => some v
  | v, key :: keys => (v.property? key).bind (follow? · keys)

/-- Numbers in templates are positional for decimal exponents from -6 up to 21, without a point when
they are integral. -/
def templateForm : Decimal.ShortForm := ⟨some (-6,21),false⟩

/-- The text for which a value stands in a template, when it is a text or a number. Zero has no
sign. -/
def inTemplate? : Value → Option String
  | .string s => some s
  | .number n =>
    let x := n.toFloat
    if x.isFinite then some (if x == 0.0 then "0" else templateForm.write x) else none
  | _ => none

/-- A value stands in a template for a text, up to the case of ASCII letters. -/
def StandsFor (v : Value) (css : String) : Prop :=
  ∃ text, v.inTemplate? = some text ∧ Text.sameIgnoringAsciiCase text css = true

section
variable {α : Type} {es : List (String × α)} {key : String}

lemma property?_object {a : α} (f : α → Value) (hn : (es.map (·.1)).Nodup) (he : (key,a) ∈ es)
    (hkey : key ≠ "__proto__") :
    (object (es.map fun e => (e.1,f e.2))).property? key = some (f a) := by
  rw [property?, if_neg hkey, get?]
  refine Decoder.lookup_of_mem ?_ (List.mem_map_of_mem (f := fun e => (e.1,f e.2)) he)
  rw [List.map_map]
  exact hn

end

end Json.Value

/-! ## Numbers in templates -/

/-- No written number has the last letter of the unit of lengths. -/
lemma Decimal.toLower_ne_of_mem_write (f : ShortForm) (x : Float) :
    ∀ c ∈ (f.write x).toList, c.toLower ≠ 'x' := by
  have hdigit : ∀ c : Char, c.isDigit = true → c.toLower ≠ 'x' := fun c hc =>
    Text.forall_ascii (P := fun c => c.isDigit = true → c.toLower ≠ 'x') (by decide +kernel)
      (Text.toNat_lt_of_isAlphanum (by rw [Char.isAlphanum, hc, Bool.or_true])) hc
  exact forall_mem_write hdigit (by decide) f x

namespace Json.Value
open Styling

lemma inTemplate?_number {n : Number} {text : String} (h : (number n).inTemplate? = some text) :
    text = "0" ∨ text = templateForm.write n.toFloat := by
  rw [inTemplate?] at h
  by_cases hf : n.toFloat.isFinite = true
  · rw [if_pos hf] at h
    rw [← Option.some.inj h]
    by_cases hz : (n.toFloat == 0.0) = true
    · exact .inl (if_pos hz)
    · exact .inr (if_neg hz)
  · rw [if_neg hf] at h
    contradiction

/-- A number stands for no length: it has no unit. -/
lemma not_standsFor_px (n : Number) (x : Float) : ¬ (number n).StandsFor (px x) := by
  rintro ⟨text,htext,hsame⟩
  have hx : 'x' ∈ text.toList.map Char.toLower := by
    have hlower : text.toList.map Char.toLower = (px x).toList.map Char.toLower :=
      String.ofList_injective (eq_of_beq hsame)
    rw [hlower, px, String.toList_append, List.map_append, List.mem_append]
    exact .inr (by decide)
  obtain ⟨c,hc,hlower⟩ := List.mem_map.mp hx
  obtain rfl | rfl := inTemplate?_number htext
  · exact (by decide : ∀ c ∈ _, c.toLower ≠ 'x') c hc hlower
  · exact Decimal.toLower_ne_of_mem_write templateForm n.toFloat c hc hlower

end Json.Value

/-! ## References -/

namespace Styling
open Tokens

/-- How a template begins a reference to a theme: a function of the props that takes the theme, or
the theme in scope. -/
def referenceOpenings : List (List Char) :=
  ["$\x7b(\x7b theme \x7d) => theme".toList,"$\x7btheme".toList]

section
variable (numberKey : ℕ → String)

/-- The keys that a reference in a template names, from the theme on to the brace at its end. The
key of a whole number is `numberKey` of it. -/
def referredKeys? (text : String) : Option (List String) :=
  (referenceOpenings.findSome? (Text.afterPrefix? · text.toList)).bind fun cs =>
    if cs.getLast? = some '\x7d' then Text.readAll? (accessKey? numberKey) cs.dropLast else none

/-- The value that a reference in a template takes from a theme. -/
def taken? (theme : Json.Value) (text : String) : Option Json.Value :=
  (referredKeys? numberKey text).bind theme.follow?

end

section
variable {numberKey : ℕ → String} {path : TokenPath} {css : String}

lemma render_themeProps (path : TokenPath) (css : String) :
    TokenStyle.themeProps.render (.token path css) =
      "$\x7b(\x7b theme \x7d) => " ++ path.accessor "theme" ++ "\x7d" := rfl

lemma render_themeScope (path : TokenPath) (css : String) :
    TokenStyle.themeScope.render (.token path css) =
      "$\x7b" ++ path.accessor "theme" ++ "\x7d" := rfl

lemma toList_reference (opening : String) (path : TokenPath) :
    (opening ++ path.accessor "theme" ++ "\x7d").toList =
      opening.toList ++ "theme".toList ++ (accesses path.segments ++ ['\x7d']) := by
  have hclose : "\x7d".toList = ['\x7d'] := by decide
  rw [String.toList_append, String.toList_append, toList_accessor, hclose]
  simp only [List.append_assoc]

/-- Both kinds of references to a token name the keys of its path. -/
lemma referredKeys?_render {s : TokenStyle} (hs : s = .themeProps ∨ s = .themeScope)
    (hkeys : ∀ key ∈ path.segments, IsNamed numberKey key) :
    referredKeys? numberKey (s.render (.token path css)) = some path.segments := by
  have hread : Text.readAll? (accessKey? numberKey) (accesses path.segments) =
      some path.segments := (readAll?_accesses_iff path.segments).mpr hkeys
  have hprops : "$\x7b(\x7b theme \x7d) => ".toList ++ "theme".toList =
      "$\x7b(\x7b theme \x7d) => theme".toList := by decide
  have hscope : "$\x7b".toList ++ "theme".toList = "$\x7btheme".toList := by decide
  have hother : Text.afterPrefix? "$\x7b(\x7b theme \x7d) => theme".toList
      ("$\x7btheme".toList ++ (accesses path.segments ++ ['\x7d'])) = none := by
    simp [Text.afterPrefix?]
  rw [referredKeys?, referenceOpenings, List.findSome?_cons]
  obtain rfl | rfl := hs
  · rw [render_themeProps, toList_reference, hprops, UserBlocks.afterPrefix?_eq_some.mpr rfl]
    simpa using hread
  · rw [render_themeScope, toList_reference, hscope, hother, List.findSome?_cons,
      UserBlocks.afterPrefix?_eq_some.mpr rfl]
    simpa using hread

end

end Styling

/-! ## Tables -/

/-- The keys of a table are different where they stand beside each other, and references can name
them; the colors have no capitals outside ASCII. -/
structure Tokens.TokenTable.Followable (numberKey : ℕ → String) (t : Tokens.TokenTable) : Prop where
  groups : (t.colors.map (·.1)).Nodup
  shades : ∀ e ∈ t.colors, (e.2.map (·.1)).Nodup
  spacing : (t.spacing.map (·.1)).Nodup
  borderRadius : (t.borderRadius.map (·.1)).Nodup
  shadows : (t.shadows.map (·.1)).Nodup
  typography : (t.typography.map (·.1)).Nodup
  keys : ∀ e ∈ Styling.declaredTokens t, ∀ key ∈ e.1.segments,
    Tokens.IsNamed numberKey key ∧ key ≠ "__proto__"
  colors : ∀ e ∈ t.colorEntries, Text.CapitalsAreAscii e.2

instance (numberKey : ℕ → String) (t : Tokens.TokenTable) : Decidable (t.Followable numberKey) :=
  decidable_of_iff ((t.colors.map (·.1)).Nodup ∧ (∀ e ∈ t.colors, (e.2.map (·.1)).Nodup) ∧
    (t.spacing.map (·.1)).Nodup ∧ (t.borderRadius.map (·.1)).Nodup ∧ (t.shadows.map (·.1)).Nodup ∧
    (t.typography.map (·.1)).Nodup ∧
    (∀ e ∈ Styling.declaredTokens t, ∀ key ∈ e.1.segments,
      Tokens.IsNamed numberKey key ∧ key ≠ "__proto__") ∧
    ∀ e ∈ t.colorEntries, Text.CapitalsAreAscii e.2)
    ⟨fun ⟨h₁,h₂,h₃,h₄,h₅,h₆,h₇,h₈⟩ => ⟨h₁,h₂,h₃,h₄,h₅,h₆,h₇,h₈⟩,
      fun h => ⟨h.groups,h.shades,h.spacing,h.borderRadius,h.shadows,h.typography,h.keys,h.colors⟩⟩

/-- Whether a path leads into a table of texts. -/
def Tokens.TokenPath.leadsToText (path : Tokens.TokenPath) : Bool :=
  path.segments.head? == some "colors" || path.segments.head? == some "shadows"

/-- The standard tokens can be followed. -/
theorem Tokens.TokenTable.followable_standard : Tokens.TokenTable.standard.Followable toString := by
  decide +kernel

namespace Styling
open Tokens Json Value

section
variable {numberKey : ℕ → String} {t : TokenTable}

/-- The value of an entry of a table of the theme. -/
lemma follow?_entry {theme v value : Value} {table key : String}
    (ht : theme.property? table = some v) (hk : v.property? key = some value) :
    theme.follow? [table,key] = some value := by
  rw [follow?, ht, Option.bind_some, follow?, hk]
  rfl

lemma follow?_color (ht : t.Followable numberKey) {e : TokenPath × String}
    (he : e ∈ t.colorEntries) : t.toJson.follow? e.1.segments = some (.string e.2) := by
  have hkeys := ht.keys e (mem_declaredTokens.mpr (.inl he))
  obtain ⟨⟨group,shades⟩,hg,he⟩ := List.mem_flatMap.mp he
  obtain ⟨⟨shade,value⟩,hs,rfl⟩ := List.mem_map.mp he
  have hgroup := property?_object TokenTable.textsJson ht.groups hg (hkeys group (by simp)).2
  have hshade := property?_object .string (ht.shades _ hg) hs (hkeys shade (by simp)).2
  have hentry := follow?_entry hgroup hshade
  rw [follow?]
  exact hentry

/-- The value of an entry of a table of the theme, if the table is written by what `f` makes of its
entries. -/
lemma follow?_table (ht : t.Followable numberKey) {α : Type} {f : α → Value} {table : String}
    {es : List (String × α)} {e : String × α} {css : String}
    (htable : t.toJson.property? table = some (.object (es.map fun e => (e.1,f e.2))))
    (hn : (es.map (·.1)).Nodup) (he : e ∈ es) (hd : (⟨[table,e.1]⟩,css) ∈ declaredTokens t) :
    t.toJson.follow? [table,e.1] = some (f e.2) :=
  follow?_entry htable (property?_object f hn he (ht.keys _ hd e.1 (by simp)).2)

end

/-- What the theme has for a token that is written as `css` without a theme: a text, a bare length,
or a text style with a size. -/
inductive ThemeEntry : TokenPath → String → Value → Prop
  | color {path : TokenPath} {text css : String} : path.segments.head? = some "colors" →
      Text.sameIgnoringAsciiCase text css = true → ThemeEntry path css (.string text)
  | shadow (key css : String) : ThemeEntry ⟨["shadows",key]⟩ css (.string css)
  | spacing (key : String) (x : Float) : ThemeEntry ⟨["spacing",key]⟩ (px x) (.ofFloat x)
  | borderRadius (key : String) (x : Float) :
      ThemeEntry ⟨["borderRadius",key]⟩ (px x) (.ofFloat x)
  | typography (key : String) (style : Typography) :
      ThemeEntry ⟨["typography",key]⟩ (px style.fontSize) (TokenTable.typographyJson style)

section
variable {numberKey : ℕ → String} {t : TokenTable} {path : TokenPath} {css : String}

lemma head?_of_mem_colorEntries {e : TokenPath × String} (he : e ∈ t.colorEntries) :
    e.1.segments.head? = some "colors" := by
  obtain ⟨g,-,he⟩ := List.mem_flatMap.mp he
  obtain ⟨s,-,rfl⟩ := List.mem_map.mp he
  rfl

lemma exists_declared (hv : Matched t (.token path css)) :
    ∃ value, (path,value) ∈ declaredTokens t := by
  obtain ⟨e,he,h⟩ | ⟨e,he,h⟩ | ⟨_,h⟩ := matched_cases hv
  · cases h
    exact ⟨e.2,mem_declaredTokens.mpr (.inl he)⟩
  · cases h
    exact ⟨e.2,he⟩
  · contradiction

/-- Every token that is matched has its entry in the theme. -/
lemma exists_themeEntry (ht : t.Followable numberKey) (hv : Matched t (.token path css)) :
    ∃ entry, t.toJson.follow? path.segments = some entry ∧ ThemeEntry path css entry := by
  obtain ⟨e,he,h⟩ | ⟨e,he,h⟩ | ⟨_,h⟩ := matched_cases hv
  · cases h
    have hlower := Text.sameIgnoringAsciiCase_lower (ht.colors e he)
    exact ⟨_,follow?_color ht he,.color (head?_of_mem_colorEntries he) hlower⟩
  · cases h
    have hd := he
    obtain he | ⟨x,hx,rfl⟩ | ⟨x,hx,rfl⟩ | ⟨x,hx,rfl⟩ | ⟨x,hx,rfl⟩ := mem_declaredTokens.mp he
    · exact ⟨_,follow?_color ht he,.color (head?_of_mem_colorEntries he) (beq_self_eq_true _)⟩
    · exact ⟨_,follow?_table ht rfl ht.spacing hx hd,.spacing x.1 x.2⟩
    · exact ⟨_,follow?_table ht rfl ht.borderRadius hx hd,.borderRadius x.1 x.2⟩
    · exact ⟨_,follow?_table ht rfl ht.shadows hx hd,.shadow x.1 x.2⟩
    · exact ⟨_,follow?_table ht rfl ht.typography hx hd,.typography x.1 x.2⟩
  · contradiction

/-- Only texts stand for what they are written as otherwise: lengths lack their unit. -/
lemma ThemeEntry.standsFor_iff {entry : Value} (h : ThemeEntry path css entry) :
    entry.StandsFor css ↔ path.leadsToText = true := by
  cases h with
  | color hpath hsame =>
    refine iff_of_true ⟨_,rfl,hsame⟩ ?_
    rw [TokenPath.leadsToText, hpath]
    rfl
  | shadow key css => exact iff_of_true ⟨_,rfl,beq_self_eq_true _⟩ rfl
  | spacing key x | borderRadius key x => exact iff_of_false (not_standsFor_px _ x) nofun
  | typography key style => exact iff_of_false nofun nofun

/-- A reference to a token of a theme finds an entry, whatever the keys of whole numbers are. In a
template the entry stands for the value that the token has without a theme if it is a color or a
shadow, and in no other case. -/
theorem theme_entry_stands_for_value_iff (ht : t.Followable numberKey)
    (hv : Matched t (.token path css)) {s : TokenStyle} (hs : s = .themeProps ∨ s = .themeScope) :
    ∃ entry, taken? numberKey t.toJson (s.render (.token path css)) = some entry ∧
      (entry.StandsFor (TokenStyle.literal.render (.token path css)) ↔
        path.leadsToText = true) := by
  obtain ⟨entry,hentry,hcss⟩ := exists_themeEntry ht hv
  obtain ⟨value,hdeclared⟩ := exists_declared hv
  have hkeys : ∀ key ∈ path.segments, IsNamed numberKey key := fun key hkey =>
    (ht.keys _ hdeclared key hkey).1
  refine ⟨entry,?_,hcss.standsFor_iff⟩
  rw [taken?, referredKeys?_render hs hkeys]
  exact hentry

end

/-- A color whose group has a point in its name, and whose digits are capitals in the table. -/
theorem theme_entry_stands_for_value_iff_brand :
    let t : TokenTable := { TokenTable.empty with
      colors := [("brand.1",[("500","#AABBCC")])] }
    let v : TokenValue := .token ⟨["colors","brand.1","500"]⟩ "#aabbcc"
    t.badColor? = none ∧ t.Followable toString ∧ (matchColor t (Color.rgb 0xaa 0xbb 0xcc)).1 = v ∧
      TokenStyle.themeProps.render v =
        "$\x7b(\x7b theme \x7d) => theme.colors['brand.1'][500]\x7d" ∧
      ∃ entry, taken? toString t.toJson (TokenStyle.themeProps.render v) = some entry ∧
        entry.StandsFor "#aabbcc" := by
  intro t v
  have ht : t.Followable toString := by decide +kernel
  have hmatch : (matchColor t (Color.rgb 0xaa 0xbb 0xcc)).1 = v := by decide +kernel
  have hv : Matched t v := hmatch ▸ .color _
  obtain ⟨entry,hentry,hiff⟩ := theme_entry_stands_for_value_iff ht hv (.inl rfl)
  exact ⟨by decide +kernel,ht,hmatch,by decide +kernel,entry,hentry,hiff.mpr (by decide)⟩

/-- A length that hits a token is a bare number in the theme. -/
theorem theme_entry_without_unit :
    let t : TokenTable := { TokenTable.empty with spacing := [("4",16.0)] }
    let v : TokenValue := .token ⟨["spacing","4"]⟩ (px 16.0)
    t.badColor? = none ∧ (matchSpacing t 16.0).1 = v ∧
      TokenStyle.themeProps.render v = "$\x7b(\x7b theme \x7d) => theme.spacing[4]\x7d" ∧
      ∃ entry, taken? toString t.toJson (TokenStyle.themeProps.render v) = some entry ∧
        entry.inTemplate? = some "16" ∧
        Text.sameIgnoringAsciiCase "16" (TokenStyle.literal.render v) = false := by
  intro t v
  have ht : t.Followable toString := by decide +kernel
  have hnearest : (nearest 16.0 t.spacing).filter (fun e => e.2.2 ≤ lengthTolerance) =
      some ("4",16.0,0.0) := by decide +kernel
  have hmatch : (matchSpacing t 16.0).1 = v := by
    rw [matchSpacing, matchLength, hnearest]
    rfl
  have hentry : taken? toString t.toJson (TokenStyle.themeProps.render v) =
      some (.ofFloat 16.0) := by
    rw [taken?, referredKeys?_render (.inl rfl) (by decide +kernel)]
    exact follow?_table ht rfl ht.spacing List.mem_cons_self List.mem_cons_self
  have htext : (Value.ofFloat 16.0).inTemplate? = some "16" := by decide +kernel
  refine ⟨by decide +kernel,hmatch,by decide +kernel,_,hentry,htext,eq_false_of_ne_true fun h => ?_⟩
  exact not_standsFor_px _ 16.0 ⟨_,htext,h⟩

end Styling

end DesignCompiler
