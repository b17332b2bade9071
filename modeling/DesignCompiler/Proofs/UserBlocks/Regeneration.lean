import DesignCompiler.Proofs.UserBlocks.FixedPoint
import DesignCompiler.UserBlocks.Update

/-! Generating a file again and again. No step loses what was written by hand, and a second step
with the same fresh text changes nothing. -/
namespace DesignCompiler.UserBlocks

/-- What a file holds after a step: what the plan writes, or else what was there. -/
def regenerate (current : Option String) (fresh : String) : Option String :=
  (planUpdate current fresh).content.or current

/-- What a file holds after a list of generated texts. -/
def history (initial : Option String) (texts : List String) : Option String :=
  texts.foldl regenerate initial

section
variable {current fresh : String}

lemma regenerate_of_skip (h : decideUpdate (some current) fresh = .skip) :
    regenerate (some current) fresh = some current := by
  have hp : (planUpdate (some current) fresh).content = none := by
    unfold planUpdate
    rw [h]
  rw [regenerate, hp]
  rfl

lemma regenerate_of_merge (h : decideUpdate (some current) fresh = .merge) :
    regenerate (some current) fresh = some (merge current fresh) := by
  have hp : (planUpdate (some current) fresh).content = some (merge current fresh) := by
    unfold planUpdate
    rw [h]
    rfl
  rw [regenerate, hp]
  rfl

lemma regenerate_of_overwrite (h : decideUpdate (some current) fresh = .overwrite) :
    regenerate (some current) fresh = some fresh := by
  have hp : (planUpdate (some current) fresh).content = some fresh := by
    unfold planUpdate
    rw [h]
  rw [regenerate, hp]
  rfl

/-- All that a step can do to an existing file: leave it, merge into it or replace it. -/
theorem regenerate_cases (current fresh : String) :
    ((normalize current = normalize fresh ∨ (scan current).unterminated.isSome = true) ∧
      regenerate (some current) fresh = some current) ∨
    ((scan current).unterminated = none ∧ (scan current).hasBlocks = true ∧
      regenerate (some current) fresh = some (merge current fresh)) ∨
    ((scan current).unterminated = none ∧ (scan current).hasBlocks = false ∧
      regenerate (some current) fresh = some fresh) := by
  by_cases hskip :
      (normalize current == normalize fresh || (scan current).unterminated.isSome) = true
  · left
    refine ⟨?_,regenerate_of_skip ?_⟩
    · rwa [Bool.or_eq_true, beq_iff_eq] at hskip
    · rw [decideUpdate, if_pos hskip]
  · have hu : (scan current).unterminated = none := by
      rw [Bool.or_eq_true, not_or, Option.not_isSome_iff_eq_none] at hskip
      exact hskip.2
    right
    by_cases hb : (scan current).hasBlocks = true
    · refine .inl ⟨hu,hb,regenerate_of_merge ?_⟩
      rw [decideUpdate, if_neg hskip, if_pos hb]
    · refine .inr ⟨hu,eq_false_of_ne_true hb,regenerate_of_overwrite ?_⟩
      rw [decideUpdate, if_neg hskip, if_neg hb]

end

/-- The file has a block with these lines. -/
def Keeps (content : List String) (file : Option String) : Prop :=
  ∃ c, file = some c ∧ ∃ b ∈ (scan c).blocks, b.content = content

/-- The lines are not all blank. -/
def Written (content : List String) : Prop := content.all Text.isBlankText = false

/-- One step keeps every block that is not blank. -/
theorem keeps_regenerate {content : List String} (hw : Written content) {file : Option String}
    {fresh : String} (hf : (scan fresh).unterminated = none) (h : Keeps content file) :
    Keeps content (regenerate file fresh) := by
  obtain ⟨c,rfl,b,hb,rfl⟩ := h
  rcases regenerate_cases c fresh with ⟨-,hr⟩ | ⟨hu,-,hr⟩ | ⟨-,hno,hr⟩
  · exact ⟨c,hr,b,hb,rfl⟩
  · obtain ⟨m,hm,hcontent⟩ := exists_content_merge hf hu hb hw
    exact ⟨_,hr,m,hm,hcontent⟩
  · -- A replaced file has no block to lose.
    rw [Scan.hasBlocks, Bool.not_eq_false', List.isEmpty_iff] at hno
    rw [hno] at hb
    contradiction

theorem keeps_history {content : List String} (hw : Written content) {texts : List String}
    (ht : ∀ f ∈ texts, (scan f).unterminated = none) {file : Option String}
    (h : Keeps content file) : Keeps content (history file texts) := by
  induction texts generalizing file with
  | nil => exact h
  | cons f fs ih =>
    obtain ⟨hf,hfs⟩ := List.forall_mem_cons.mp ht
    exact ih hfs (keeps_regenerate hw hf h)

lemma history_take_of_le (initial : Option String) (texts : List String) {k m : ℕ} (h : k ≤ m) :
    history initial (texts.take m) =
      history (history initial (texts.take k)) ((texts.drop k).take (m - k)) := by
  rw [history, history, history, ← List.foldl_append, ← List.take_add, Nat.add_sub_cancel' h]

/-- No history of regenerations loses a block that is not blank. -/
theorem content_survives_history (initial : Option String) (texts : List String)
    (ht : ∀ f ∈ texts, (scan f).unterminated = none) (k m : ℕ) (hkm : k ≤ m) (c : String)
    (hc : history initial (texts.take k) = some c) (b : UserBlock) (hb : b ∈ (scan c).blocks)
    (hblank : b.isBlank = false) :
    ∃ d, history initial (texts.take m) = some d ∧
      ∃ b' ∈ (scan d).blocks, b'.content = b.content := by
  have hlater : ∀ f ∈ (texts.drop k).take (m - k), (scan f).unterminated = none :=
    fun f hf => ht f (List.mem_of_mem_drop (List.mem_of_mem_take hf))
  have hkeeps : Keeps b.content (history initial (texts.take k)) := ⟨c,hc,b,hb,rfl⟩
  rw [history_take_of_le initial texts hkm]
  exact keeps_history hblank hlater hkeeps

/-- A block of the first file is still there after two generated texts without it. -/
theorem content_survives_two_texts :
    let initial := "// @canopy-user-start a\nx\n// @canopy-user-end"
    let texts := ["y", "// @canopy-user-start b\n// @canopy-user-end"]
    (∀ f ∈ texts, (scan f).unterminated = none) ∧
    ∃ d, history (some initial) (texts.take 2) = some d ∧
      ∃ b ∈ (scan d).blocks, b.content = ["x"] := by
  have ht : ∀ f ∈ ["y", "// @canopy-user-start b\n// @canopy-user-end"],
      (scan f).unterminated = none := by decide
  exact ⟨ht,content_survives_history _ _ ht 0 2 (Nat.zero_le 2) _ rfl
    ⟨"a",some "a",["x"],0,2⟩ (by decide) (by decide)⟩

/-- What a merge would leave as it is, a step leaves as it is. -/
lemma regenerate_of_merge_eq {current fresh : String} (h : merge current fresh = current) :
    regenerate (some current) fresh = some current := by
  rcases regenerate_cases current fresh with ⟨-,hr⟩ | ⟨-,-,hr⟩ | ⟨hu,hb,hr⟩
  · exact hr
  · rw [hr, h]
  · exact hr.trans (congrArg some ((merge_of_no_blocks hu hb).symm.trans h))

/-- Generating the same text again changes nothing. -/
theorem regenerate_regenerate {fresh : String} (hf : (scan fresh).unterminated = none)
    (hd : ((scan fresh).blocks.map (·.id)).Nodup) (previous : Option String) :
    regenerate (regenerate previous fresh) fresh = regenerate previous fresh := by
  have hfresh := regenerate_of_merge_eq (merge_self hf hd)
  cases previous with
  | none => exact hfresh
  | some current =>
    rcases regenerate_cases current fresh with ⟨-,hr⟩ | ⟨-,-,hr⟩ | ⟨-,-,hr⟩
    · rw [hr, hr]
    · rw [hr]
      exact regenerate_of_merge_eq (merge_merge hf hd current)
    · rw [hr]
      exact hfresh

/-- Regeneration reaches its fixed point in one step. -/
theorem regeneration_fixed_point (fresh : String) (hf : (scan fresh).unterminated = none)
    (hd : ((scan fresh).blocks.map (·.id)).Nodup) :
    (∀ previous, merge (merge previous fresh) fresh = merge previous fresh) ∧
    (∀ previous, regenerate (regenerate previous fresh) fresh = regenerate previous fresh) :=
  ⟨merge_merge hf hd,regenerate_regenerate hf hd⟩

theorem regeneration_fixed_point_two_blocks :
    let previous := "// @canopy-user-start\nx\n// @canopy-user-end"
    let fresh := "// @canopy-user-start b\n// @canopy-user-end\n" ++
      "// @canopy-user-start\n// @canopy-user-end"
    (scan fresh).unterminated = none ∧ ((scan fresh).blocks.map (·.id)).Nodup ∧
    merge (merge previous fresh) fresh = merge previous fresh ∧
    regenerate (regenerate (some previous) fresh) fresh = regenerate (some previous) fresh := by
  intro previous fresh
  have hs : scan fresh = ⟨[⟨"b",some "b",[],0,1⟩, ⟨"block_1",none,[],2,3⟩],none⟩ := by decide
  have hf : (scan fresh).unterminated = none := by rw [hs]
  have hd : ((scan fresh).blocks.map (·.id)).Nodup := by
    rw [hs]
    decide
  have h := regeneration_fixed_point fresh hf hd
  exact ⟨hf,hd,h.1 previous,h.2 (some previous)⟩

end DesignCompiler.UserBlocks
