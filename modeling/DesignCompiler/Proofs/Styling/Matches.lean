import DesignCompiler.Styling.TokenMatch
import Mathlib.Tactic.Lemma
import Mathlib.Tactic.SplitIfs

/-! What a lookup in a token table comes to: an entry of the table for its kind of values, or the
value as it was. -/
namespace DesignCompiler.Styling
open Tokens

lemma counted_cases (found : Option (TokenPath × String)) (literal : String) :
    (∃ path css, found = some (path,css) ∧ (counted found literal).1 = .token path css) ∨
      (counted found literal).1 = .raw literal := by
  cases found with
  | none => exact .inr rfl
  | some e => exact .inl ⟨e.1,e.2,rfl,rfl⟩

/-! ## Entries -/

lemma colorWithHex_eq_some {hex : String} {es : List (TokenPath × String)} {path : TokenPath}
    {css : String} (h : colorWithHex hex es = .ok (some (path,css))) :
    ∃ value, (path,value) ∈ es ∧ css = Text.lower value := by
  induction es with
  | nil => simp [colorWithHex] at h
  | cons e es ih =>
    have hlater := fun h => (ih h).imp fun _ hv => hv.imp_left (List.mem_cons_of_mem e)
    rw [colorWithHex] at h
    split at h
    · split at h
      · cases h
        exact ⟨e.2,List.mem_cons_self,rfl⟩
      · exact hlater h
    · exact hlater h
    · contradiction

lemma presetShadow_eq_some {s : Shadow} {es : List (String × String)} {path : TokenPath}
    {css : String} (h : presetShadow s es = .ok (some (path,css))) :
    ∃ key, (key,css) ∈ es ∧ path = ⟨["shadows",key]⟩ := by
  induction es with
  | nil => simp [presetShadow] at h
  | cons e es ih =>
    have hlater := fun h => (ih h).imp fun _ hk => hk.imp_left (List.mem_cons_of_mem e)
    rw [presetShadow] at h
    split at h
    · split at h
      · cases h
        exact ⟨e.1,List.mem_cons_self,rfl⟩
      · exact hlater h
    · exact hlater h
    · contradiction

/-- What is nearest is an entry of the table. -/
lemma mem_of_nearest {value : Float} {table : List (String × Float)} {e : String × Float × Float}
    (h : nearest value table = some e) : (e.1,e.2.1) ∈ table := by
  -- The best entry so far is one that has been read.
  let Read (best : Option (String × Float × Float)) : Prop := ∀ b ∈ best, (b.1,b.2.1) ∈ table
  suffices hread : Read (nearest value table) from hread e h
  refine List.foldlRecOn table _ (motive := Read) ?_ ?_
  · exact fun b hb => absurd hb (Option.not_mem_none b)
  · intro best hbest x hx
    dsimp only
    split
    · split_ifs
      · rintro b ⟨⟩
        exact hx
      · exact hbest
    · rintro b ⟨⟩
      exact hx

section
variable (t : TokenTable)

lemma namedColor?_eq_some {t : TokenTable} {name css : String} {path : TokenPath}
    (h : namedColor? t name = some (path,css)) :
    ∃ value, (path,value) ∈ t.colorEntries ∧ css = Text.lower value := by
  unfold namedColor? at h
  dsimp only at h
  split at h
  · contradiction
  · obtain ⟨e,he,hfound⟩ := Option.map_eq_some_iff.mp h
    cases hfound
    exact ⟨e.2,List.mem_of_find?_eq_some he,rfl⟩

/-! ## Lookups -/

/-- The values that a table gives for the colors, lengths and shadows of a design. -/
inductive Matched (t : TokenTable) : TokenValue → Prop
  | color (c : Color) : Matched t (matchColor t c).1
  | spacing (x : Float) : Matched t (matchSpacing t x).1
  | radius (x : Float) : Matched t (matchRadius t x).1
  | fontSize (size : Float) : Matched t (matchFontSize t size).1
  | shadows (shadows : List Shadow) : Matched t (matchShadows t shadows).1

/-- A color is one of the table's in small letters, or itself. -/
lemma matchColor_cases (c : Color) :
    (∃ e ∈ t.colorEntries, (matchColor t c).1 = .token e.1 (Text.lower e.2)) ∨
      (matchColor t c).1 = .raw c.toCss := by
  unfold matchColor
  split
  · split
    · next found hfound =>
      obtain ⟨name,-,hname⟩ := Option.bind_eq_some_iff.mp hfound
      obtain ⟨value,hvalue,hcss⟩ := namedColor?_eq_some hname
      exact .inl ⟨_,hvalue,congrArg (TokenValue.token found.1) hcss⟩
    · split
      · next found hfound =>
        obtain ⟨path,css,rfl,hcounted⟩ | hcounted := counted_cases found c.toCss
        · obtain ⟨value,hvalue,rfl⟩ := colorWithHex_eq_some hfound
          exact .inl ⟨_,hvalue,hcounted⟩
        · exact .inr hcounted
      · exact .inr rfl
  · exact .inr rfl

/-- A length is one of its table, or itself. -/
lemma matchLength_cases (table : String) (entries : List (String × Float)) (x : Float) :
    (∃ e ∈ entries, (matchLength table entries x).1 = .token ⟨[table,e.1]⟩ (px e.2)) ∨
      (matchLength table entries x).1 = .raw (px x) := by
  refine (counted_cases _ _).imp_left ?_
  rintro ⟨path,css,hfound,hcounted⟩
  obtain ⟨e,he,hentry⟩ := Option.map_eq_some_iff.mp hfound
  cases hentry
  exact ⟨(e.1,e.2.1),mem_of_nearest (Option.filter_eq_some_iff.mp he).1,hcounted⟩

/-- A size is that of one of the text styles, or itself. -/
lemma matchFontSize_cases (size : Float) :
    (∃ e ∈ t.typography,
        (matchFontSize t size).1 = .token ⟨["typography",e.1]⟩ (px e.2.fontSize)) ∨
      (matchFontSize t size).1 = .raw (px size) := by
  refine (counted_cases _ _).imp_left ?_
  rintro ⟨path,css,hfound,hcounted⟩
  obtain ⟨e,he,hentry⟩ := Option.map_eq_some_iff.mp hfound
  cases hentry
  exact ⟨e,List.mem_of_find?_eq_some he,hcounted⟩

/-- Shadows are a preset, or themselves. -/
lemma matchShadows_cases (shadows : List Shadow) :
    (∃ e ∈ t.shadows, (matchShadows t shadows).1 = .token ⟨["shadows",e.1]⟩ e.2) ∨
      (matchShadows t shadows).1 = .raw (shadowsText shadows) := by
  unfold matchShadows
  split
  · split
    · next found hfound =>
      refine (counted_cases _ _).imp_left ?_
      rintro ⟨path,css,rfl,hcounted⟩
      obtain ⟨key,hkey,rfl⟩ := presetShadow_eq_some hfound
      exact ⟨(key,css),hkey,hcounted⟩
    · exact .inr rfl
  · exact .inr rfl

/-- A gradient goes from one matched color to another, or is written as text. -/
lemma matchGradient_cases (g : Gradient) :
    (∃ d a b, (matchGradient t g).1 =
        .directional d (matchColor t a).1 (matchColor t b).1) ∨
      (matchGradient t g).1 = .raw (gradientText g (g.stops.map (·.color.toCss))) := by
  unfold matchGradient
  dsimp only
  split
  · exact .inl ⟨_,_,_,rfl⟩
  · exact .inr rfl

end

end DesignCompiler.Styling
