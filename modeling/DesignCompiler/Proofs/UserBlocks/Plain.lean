import DesignCompiler.Proofs.UserBlocks.Format

/-! Plain texts, of which no line opens a block. Empty blocks between plain texts are found as they
were written, and nothing else is. A start marker that no end marker follows leaves a block open. -/
namespace DesignCompiler

namespace Text

lemma lines_append_lineFeed (a b : String) : lines (a ++ "\n" ++ b) = lines a ++ lines b := by
  have htext : (a ++ "\n" ++ b).toList = a.toList ++ '\n' :: b.toList := by
    rw [String.toList_append, String.toList_append, List.append_assoc]
    rfl
  have hsplit : (a.toList ++ '\n' :: b.toList).splitOn '\n' =
      a.toList.splitOn '\n' ++ b.toList.splitOn '\n' :=
    List.splitOnP_append_cons _ _ (beq_self_eq_true '\n')
  rw [lines, htext, hsplit, List.map_append, lines, lines]

lemma lines_of_oneLine {l : String} (h : OneLine l) : lines l = [l] := by
  rw [lines, List.splitOn_eq_singleton h, List.map_singleton, String.ofList_toList]

end Text

namespace UserBlocks
open Text

/-- A text of which no line is a start marker. -/
def Plain (text : String) : Prop := ∀ l ∈ lines text, parseStart l = none

instance (text : String) : Decidable (Plain text) :=
  inferInstanceAs (Decidable (∀ l ∈ lines text, _))

lemma plain_append_lineFeed {a b : String} : Plain (a ++ "\n" ++ b) ↔ Plain a ∧ Plain b := by
  rw [Plain, lines_append_lineFeed]
  exact List.forall_mem_append

lemma plain_empty : Plain "" := by
  intro l hl
  rw [lines_of_oneLine oneLine_empty, List.mem_singleton] at hl
  rw [hl, parseStart_empty]

theorem plain_ofLines {ls : List String} (h : ∀ l ∈ ls, Plain l) : Plain (ofLines ls) := by
  unfold ofLines
  induction ls with
  | nil => exact plain_empty
  | cons l ls ih =>
    obtain ⟨hl,hls⟩ := List.forall_mem_cons.mp h
    cases ls with
    | nil => simpa using hl
    | cons m ls =>
      rw [String.intercalate_cons_of_ne_nil (List.cons_ne_nil _ _), plain_append_lineFeed]
      exact ⟨hl,ih hls⟩

/-! ## Single lines -/

lemma isPrefix_of_parseStart {l : String} {label : Option String} (h : parseStart l = some label) :
    startMarker.toList <+: l.toList.dropWhile isBlank := by
  unfold parseStart at h
  split at h
  · contradiction
  all_goals
    next hrest =>
    have htrim := afterPrefix?_eq_some.mp hrest
    rw [trimChars_eq_rdropWhile] at htrim
    refine List.IsPrefix.trans ?_ (List.rdropWhile_prefix isBlank _)
    rw [htrim]
    exact List.prefix_append _ _

theorem plain_of_not_isPrefix {l : String} (hl : OneLine l)
    (h : ¬ startMarker.toList <+: l.toList.dropWhile isBlank) : Plain l := by
  intro m hm
  rw [lines_of_oneLine hl, List.mem_singleton] at hm
  rw [hm, ← Option.not_isSome_iff_eq_none, Option.isSome_iff_exists]
  rintro ⟨label,hlabel⟩
  exact h (isPrefix_of_parseStart hlabel)

/-- Whether the first character that is not blank is no slash, so that no marker begins there. -/
def leads (s : String) : Bool := (s.toList.dropWhile isBlank).head?.any (· != '/')

lemma leads_append {s : String} (h : leads s = true) (t : String) : leads (s ++ t) = true := by
  unfold leads at h ⊢
  obtain ⟨c,hc,hne⟩ := (Option.any_eq_true _ _).mp h
  obtain ⟨cs,hcs⟩ := List.head?_eq_some_iff.mp hc
  rw [String.toList_append, List.dropWhile_append, hcs]
  exact hne

lemma leads_append_left {indent : String} (hi : isBlankText indent = true) {s : String}
    (h : leads s = true) : leads (indent ++ s) = true := by
  have hblank : ∀ c ∈ indent.toList, isBlank c = true := List.all_eq_true.mp hi
  unfold leads at h ⊢
  rwa [String.toList_append, List.dropWhile_append_of_pos hblank]

theorem plain_of_leads {l : String} (hl : OneLine l) (h : leads l = true) : Plain l := by
  refine plain_of_not_isPrefix hl ?_
  rintro ⟨rest,hrest⟩
  rw [leads, ← hrest] at h
  contradiction

/-- A line of which the beginning tells that it is plain. -/
lemma plain_append {word rest : String} (hw : leads word = true) (h : OneLine (word ++ rest)) :
    Plain (word ++ rest) := plain_of_leads h (leads_append hw rest)

/-! ## Blocks between plain texts -/

/-- The lines of a text as sections. -/
def plainSections (text : String) : List Section := (lines text).map .line

lemma wellFormed_plainSections {text : String} (h : Plain text) :
    ∀ s ∈ plainSections text, s.WellFormed := by
  intro s hs
  obtain ⟨l,hl,rfl⟩ := List.mem_map.mp hs
  exact ⟨h l hl,oneLine_of_mem_lines hl⟩

lemma lines_plainSections (text : String) :
    (plainSections text).flatMap Section.lines = lines text := by
  rw [plainSections, List.flatMap_map]
  exact List.flatMap_singleton' _

lemma scanPieces_plainSections (text : String) (ps : List Piece) (n k : ℕ) :
    scanPieces n k ((plainSections text).map Section.piece ++ ps) =
      scanPieces n (k+(lines text).length) ps := by
  unfold plainSections
  induction lines text generalizing k with
  | nil => rfl
  | cons l ls ih =>
    rw [List.map_cons, List.map_cons, List.cons_append, List.length_cons, Section.piece, scanPieces,
      ih, Nat.add_assoc, Nat.add_comm 1]

/-- Two empty blocks between plain texts are all that a scan finds. -/
theorem scan_emptyBlocks {before middle after first second indent indent' : String}
    (hb : Plain before) (hm : Plain middle) (ha : Plain after) (hf : IsLabel first)
    (hs : IsLabel second) (hi : Section.IsIndent indent) (hi' : Section.IsIndent indent') :
    let s := scan (before ++ "\n" ++ emptyBlock first indent ++ "\n" ++ middle ++ "\n" ++
      emptyBlock second indent' ++ "\n" ++ after)
    s.unterminated = none ∧
      s.blocks.map (fun b => (b.id,b.content)) = [(first,[]),(second,[])] := by
  have hblock : ∀ {label indent : String}, IsLabel label → Section.IsIndent indent →
      lines (emptyBlock label indent) =
        (Section.block (some label) [] indent indent).lines := by
    intro label indent hl hi
    have hstart : OneLine (startLine (some label) indent) :=
      oneLine_startLine hi.2 fun l h => Option.some_inj.mp h ▸ hl.oneLine
    rw [emptyBlock, lines_append_lineFeed, lines_of_oneLine hstart,
      lines_of_oneLine (oneLine_endLine hi.2)]
    rfl
  let sections := plainSections before ++ .block (some first) [] indent indent ::
    (plainSections middle ++ .block (some second) [] indent' indent' :: plainSections after)
  have hwell : ∀ s ∈ sections, s.WellFormed := by
    intro s h
    simp only [sections, List.mem_append, List.mem_cons] at h
    obtain h | rfl | h | rfl | h := h
    · exact wellFormed_plainSections hb s h
    · exact ⟨fun l h => Option.some_inj.mp h ▸ hf,List.forall_mem_nil _,hi,hi⟩
    · exact wellFormed_plainSections hm s h
    · exact ⟨fun l h => Option.some_inj.mp h ▸ hs,List.forall_mem_nil _,hi',hi'⟩
    · exact wellFormed_plainSections ha s h
  have htext : before ++ "\n" ++ emptyBlock first indent ++ "\n" ++ middle ++ "\n" ++
      emptyBlock second indent' ++ "\n" ++ after = render sections := by
    rw [← ofLines_lines (_ ++ after), render]
    simp only [lines_append_lineFeed, hblock hf hi, hblock hs hi', sections, List.flatMap_append,
      List.flatMap_cons, lines_plainSections, List.append_assoc]
  intro s
  have hscan : s = scanPieces 0 0 (sections.map Section.piece) := by
    rw [← scan_render hwell, ← htext]
  simp only [sections, List.map_append, List.map_cons, scanPieces_plainSections, Section.piece,
    scanPieces] at hscan
  rw [← List.append_nil ((plainSections after).map _), scanPieces_plainSections] at hscan
  rw [hscan]
  exact ⟨rfl,rfl⟩

/-- A start marker that no end marker follows opens a block that is never closed. -/
theorem isSome_unterminated {before after : String} (hs : ∃ l ∈ lines after, parseStart l ≠ none)
    (he : ∀ l ∈ lines after, isEnd l = false) :
    (scan (before ++ "\n" ++ after)).unterminated.isSome = true := by
  have hlines := lines_append_lineFeed before after
  obtain ⟨l,hl,hstart⟩ := hs
  obtain ⟨i,hi⟩ := List.mem_iff_getElem?.mp hl
  obtain ⟨label,hlabel⟩ := Option.ne_none_iff_exists'.mp hstart
  have hopens : OpensAt (lines (before ++ "\n" ++ after)) ((lines before).length + i) := by
    refine ⟨l,label,?_,hlabel⟩
    rw [hlines, List.getElem?_append_right (Nat.le_add_right _ _), Nat.add_sub_cancel_left, hi]
  obtain ⟨b,hb,-,hcovers⟩ | ⟨u,hu,-⟩ := (describes_scan _).outside _ hopens
  · -- A block that covers the marker ends after it.
    obtain ⟨e,hget,hend⟩ := (framed_of_mem_blocks hb).ends
    rw [hlines, List.getElem?_append_right (Nat.le_trans (Nat.le_add_right _ i) hcovers)] at hget
    rw [he e (List.mem_of_getElem? hget)] at hend
    contradiction
  · rw [hu]
    rfl

end UserBlocks

end DesignCompiler
