import DesignCompiler.Proofs.Markup.Lines
import DesignCompiler.Proofs.Text.Pieces

/-! Texts as content of elements. Content is made of pieces, each of which stands for one character,
and none begins with another; so it can be taken apart in one way only and the text read back. -/
namespace DesignCompiler.Markup

/-! ## Pieces -/

/-- The pieces for the characters that have a meaning in markup, and for the line feed. -/
def contentMarks : List (List Char × Char) := [
  ("\x7b'\x7b'\x7d".toList,'\x7b'),("\x7b'\x7d'\x7d".toList,'\x7d'),("&lt;".toList,'<'),
  ("&gt;".toList,'>'),("&amp;".toList,'&'),("<br />".toList,'\n')]

/-- A piece of content and the character for which it stands. Without a mark of its own, a character
stands for itself. -/
inductive ContentPiece : List Char → Char → Prop
  | mark {w : List Char} {c : Char} : (w,c) ∈ contentMarks → ContentPiece w c
  | plain {c : Char} : c ∉ contentMarks.map (·.2) → ContentPiece [c] c

/-- Pieces that make up some content and stand for the characters of a text, one by one. -/
structure ContentPieces (ws : List (List Char)) (content text : String) : Prop where
  pieces : List.Forall₂ ContentPiece ws text.toList
  whole : ws.flatten = content.toList

section
variable {v w : List Char} {c d : Char}

/-- A character has one piece, which is what is written for it. -/
lemma contentPiece_iff : ContentPiece w c ↔ w = escapeChar c := by
  have hmarks : ∀ m ∈ contentMarks, m.1 = escapeChar m.2 := by decide
  have hmarked : ∀ c ∈ contentMarks.map (·.2), (escapeChar c,c) ∈ contentMarks := by decide
  have hplain : ∀ c ∉ contentMarks.map (·.2), escapeChar c = [c] := by
    intro c hc
    simp only [contentMarks, List.map_cons, List.map_nil, List.mem_cons, not_or] at hc
    simp [escapeChar, hc]
  constructor
  · intro h
    cases h with
    | mark hw => exact hmarks _ hw
    | plain hc => exact (hplain c hc).symm
  · rintro rfl
    by_cases hc : c ∈ contentMarks.map (·.2)
    · exact .mark (hmarked c hc)
    · rw [hplain c hc]
      exact .plain hc

/-- No piece begins with the piece for another character. -/
lemma ContentPiece.eq_of_prefix (hv : ContentPiece v c) (hw : ContentPiece w d) (h : v <+: w) :
    c = d := by
  have hmarks : ∀ m ∈ contentMarks, ∀ n ∈ contentMarks, m.1 <+: n.1 → m.2 = n.2 := by decide
  have hlong : ∀ m ∈ contentMarks, 1 < m.1.length := by decide
  have hfirst : ∀ m ∈ contentMarks, ∀ c ∈ m.1.take 1, c ∈ contentMarks.map (·.2) := by decide
  cases hv with
  | mark hv =>
    cases hw with
    | mark hw => exact hmarks _ hv _ hw h
    | plain hd => exact absurd h.length_le (Nat.not_le_of_lt (hlong _ hv))
  | plain hc =>
    cases hw with
    | mark hw =>
      obtain ⟨rest,rfl⟩ := h
      exact absurd (hfirst _ hw c List.mem_cons_self) hc
    | plain hd => exact List.singleton_inj.mp (h.eq_of_length rfl)

end

/-- Different texts have different content. -/
theorem escapeText_injective : Function.Injective escapeText := by
  have hfree : ∀ c d, escapeChar c <+: escapeChar d → c = d := fun c d =>
    ContentPiece.eq_of_prefix (contentPiece_iff.mpr rfl) (contentPiece_iff.mpr rfl)
  have hne : ∀ c, escapeChar c ≠ [] := by
    intro c
    unfold escapeChar
    split_ifs <;> simp
  intro s t h
  exact String.toList_injective (Text.flatMap_injective hne hfree (String.ofList_injective h))

/-- The pieces of content are those that are written for its text. -/
theorem contentPieces_iff {ws : List (List Char)} {content text : String} :
    ContentPieces ws content text ↔ ws = text.toList.map escapeChar ∧ content = escapeText text := by
  have hpieces : List.Forall₂ ContentPiece ws text.toList ↔ ws = text.toList.map escapeChar := by
    have hrel : ContentPiece = fun w c => w = escapeChar c := by
      funext w c
      exact propext contentPiece_iff
    rw [hrel, ← List.forall₂_map_right_iff, List.forall₂_eq_eq_eq]
  have hwhole : (text.toList.map escapeChar).flatten = content.toList ↔
      content = escapeText text := by
    rw [← List.flatMap_def, eq_comm, escapeText, ← String.toList_inj, String.toList_ofList]
  constructor
  · rintro ⟨h,hflatten⟩
    obtain rfl := hpieces.mp h
    exact ⟨rfl,hwhole.mp hflatten⟩
  · rintro ⟨rfl,h⟩
    exact ⟨hpieces.mpr rfl,hwhole.mpr h⟩

/-- A text as content splits into pieces in one way only, and the pieces stand for the characters of
the text. So the content determines the text, and it stands on one line. -/
theorem content_splits_uniquely (s : String) :
    (∃ ws, ContentPieces ws (escapeText s) s ∧
      ∀ us t, ContentPieces us (escapeText s) t → us = ws ∧ t = s) ∧
      (∀ t, escapeText t = escapeText s → t = s) ∧ Text.OneLine (escapeText s) := by
  refine ⟨⟨s.toList.map escapeChar,contentPieces_iff.mpr ⟨rfl,rfl⟩,fun us t h => ?_⟩,
    fun t h => escapeText_injective h,oneLine_escapeText s⟩
  obtain ⟨rfl,hcontent⟩ := contentPieces_iff.mp h
  obtain rfl := escapeText_injective hcontent
  exact ⟨rfl,rfl⟩

end DesignCompiler.Markup
