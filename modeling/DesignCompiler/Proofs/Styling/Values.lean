import DesignCompiler.Proofs.Styling.Alphabet
import DesignCompiler.Proofs.Styling.Matches

/-! Values matched with a token table are written from its texts and from numbers, so that they
stand on one line when the texts of the table do. -/
namespace DesignCompiler
open Text

namespace Tokens.TokenTable

/-- The texts of a table that are written as they stand: the keys under which values are looked up,
and the values that are texts. -/
def rawTexts (t : TokenTable) : List String :=
  (t.colors.flatMap fun (group,shades) =>
    group :: shades.flatMap fun (shade,value) => [shade,value]) ++
  t.spacing.map (·.1) ++ t.borderRadius.map (·.1) ++
  (t.shadows.flatMap fun (key,css) => [key,css]) ++ t.typography.map (·.1)

end Tokens.TokenTable

namespace Styling
open Tokens

/-- The tables in which values are looked up. -/
def tableNames : List String := ["colors","spacing","borderRadius","shadows","typography"]

/-- Of what a matched value is written: its path of the name of a table and of keys, and its text
from numbers, or as it stands in the table, possibly in small letters. -/
inductive WrittenFrom (t : TokenTable) : TokenValue → Prop
  | raw {css : String} : IsValueText css → WrittenFrom t (.raw css)
  | token {path : TokenPath} {css : String} :
      (∀ s ∈ path.segments, s ∈ tableNames ∨ s ∈ t.rawTexts) →
      (IsValueText css ∨ css ∈ t.rawTexts ∨ ∃ s ∈ t.rawTexts, css = lower s) →
      WrittenFrom t (.token path css)

section
variable {t : TokenTable}

lemma mem_rawTexts_of_colorEntries {e : TokenPath × String} (he : e ∈ t.colorEntries) :
    (∀ s ∈ e.1.segments, s ∈ tableNames ∨ s ∈ t.rawTexts) ∧ e.2 ∈ t.rawTexts := by
  obtain ⟨⟨group,shades⟩,hg,he⟩ := List.mem_flatMap.mp he
  obtain ⟨⟨shade,value⟩,hs,rfl⟩ := List.mem_map.mp he
  have hcolors : ∀ s ∈ group :: shades.flatMap fun (shade,value) => [shade,value],
      s ∈ t.rawTexts := by
    intro s hs
    simp only [TokenTable.rawTexts, List.append_assoc]
    exact List.mem_append_left _ (List.mem_flatMap.mpr ⟨_,hg,hs⟩)
  obtain ⟨hgroup,hshades⟩ := List.forall_mem_cons.mp hcolors
  have hpair : ∀ s ∈ [shade,value], s ∈ t.rawTexts :=
    fun s h => hshades s (List.mem_flatMap.mpr ⟨_,hs,h⟩)
  simp only [List.forall_mem_cons] at hpair ⊢
  exact ⟨⟨.inl (by decide),.inr hgroup,.inr hpair.1,List.forall_mem_nil _⟩,hpair.2.1⟩

/-- A token whose key is one of the table's. -/
lemma WrittenFrom.key {table key css : String} (htable : table ∈ tableNames)
    (hkey : key ∈ t.rawTexts) (hcss : IsValueText css ∨ css ∈ t.rawTexts) :
    WrittenFrom t (.token ⟨[table,key]⟩ css) := by
  refine .token ?_ (hcss.imp_right .inl)
  simp only [List.forall_mem_cons]
  exact ⟨.inl htable,.inr hkey,List.forall_mem_nil _⟩

lemma writtenFrom_matchLength {table : String} {entries : List (String × Float)}
    (htable : table ∈ tableNames) (hkeys : ∀ s ∈ entries.map (·.1), s ∈ t.rawTexts) (x : Float) :
    WrittenFrom t (matchLength table entries x).1 := by
  obtain ⟨e,he,h⟩ | h := matchLength_cases table entries x
  · rw [h]
    exact .key htable (hkeys _ (List.mem_map_of_mem (f := (·.1)) he)) (.inl (isValueText_px e.2))
  · rw [h]
    exact .raw (isValueText_px x)

/-- Whatever is matched is written from numbers and from the texts of the table. -/
theorem writtenFrom_of_matched {v : TokenValue} (hv : Matched t v) : WrittenFrom t v := by
  cases hv with
  | color c =>
    obtain ⟨e,he,h⟩ | h := matchColor_cases t c
    · obtain ⟨hpath,hvalue⟩ := mem_rawTexts_of_colorEntries he
      rw [h]
      exact .token hpath (.inr (.inr ⟨e.2,hvalue,rfl⟩))
    · rw [h]
      exact .raw (isValueText_toCss c)
  | spacing x =>
    refine writtenFrom_matchLength (by decide) (fun s hs => ?_) x
    simp only [TokenTable.rawTexts, List.mem_append]
    exact .inl (.inl (.inl (.inr hs)))
  | radius x =>
    refine writtenFrom_matchLength (by decide) (fun s hs => ?_) x
    simp only [TokenTable.rawTexts, List.mem_append]
    exact .inl (.inl (.inr hs))
  | fontSize size =>
    obtain ⟨e,he,h⟩ | h := matchFontSize_cases t size
    · have hkey : e.1 ∈ t.rawTexts := by
        simp only [TokenTable.rawTexts, List.mem_append]
        exact .inr (List.mem_map_of_mem he)
      rw [h]
      exact .key (by decide) hkey (.inl (isValueText_px _))
    · rw [h]
      exact .raw (isValueText_px size)
  | shadows shadows =>
    obtain ⟨e,he,h⟩ | h := matchShadows_cases t shadows
    · have hpair : ∀ s ∈ [e.1,e.2], s ∈ t.rawTexts := by
        intro s hs
        simp only [TokenTable.rawTexts, List.mem_append]
        exact .inl (.inr (List.mem_flatMap.mpr ⟨_,he,hs⟩))
      simp only [List.forall_mem_cons] at hpair
      rw [h]
      exact .key (by decide) hpair.1 (.inr hpair.2.1)
    · rw [h]
      exact .raw (isValueText_shadowsText shadows)

/-- The texts from which a matched value is written. -/
def TokenValue.texts : TokenValue → List String
  | token path css => css :: path.segments
  | raw css => [css]

/-- Matched values stand on one line when the texts of the table do. -/
theorem allOneLine_of_matched (ht : AllOneLine t.rawTexts) {v : TokenValue} (hv : Matched t v) :
    AllOneLine v.texts := by
  have hnames : AllOneLine tableNames := by decide
  cases writtenFrom_of_matched hv with
  | raw hcss => exact allOneLine_cons.mpr ⟨hcss.oneLine,allOneLine_nil⟩
  | token hpath hcss =>
    refine allOneLine_cons.mpr ⟨?_,fun s hs => (hpath s hs).elim (hnames s) (ht s)⟩
    obtain hcss | hcss | ⟨s,hs,rfl⟩ := hcss
    · exact hcss.oneLine
    · exact ht _ hcss
    · exact oneLine_lower (ht s hs)

end

end Styling

end DesignCompiler
