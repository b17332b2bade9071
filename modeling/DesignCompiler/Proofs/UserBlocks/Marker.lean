import DesignCompiler.Proofs.Text.Lines
import DesignCompiler.Proofs.Text.Trim
import DesignCompiler.UserBlocks.Marker

/-! Marker lines are read back as they were written, and the label that is read from a line can be
written again. -/
namespace DesignCompiler.UserBlocks

lemma afterPrefix?_eq_some {w cs rest : List Char} :
    Text.afterPrefix? w cs = some rest ↔ cs = w ++ rest := by
  unfold Text.afterPrefix?
  constructor
  · intro h
    split at h
    · next hp =>
      obtain ⟨r,rfl⟩ := List.isPrefixOf_iff_prefix.mp hp
      rw [List.drop_left, Option.some.injEq] at h
      rw [h]
    · contradiction
  · rintro rfl
    rw [if_pos (List.isPrefixOf_iff_prefix.mpr (List.prefix_append w rest)), List.drop_left]

/-- What can stand as the label of a start marker. -/
structure IsLabel (label : String) : Prop where
  ne_empty : label ≠ ""
  trimmed : Text.trim label = label
  oneLine : Text.OneLine label

instance (label : String) : Decidable (IsLabel label) :=
  decidable_of_iff (label ≠ "" ∧ Text.trim label = label ∧ Text.OneLine label)
    ⟨fun ⟨hne,ht,hl⟩ => ⟨hne,ht,hl⟩,fun ⟨hne,ht,hl⟩ => ⟨hne,ht,hl⟩⟩

lemma IsLabel.toList_ne_nil {label : String} (h : IsLabel label) : label.toList ≠ [] := by
  intro he
  exact h.ne_empty (String.toList_eq_nil_iff.mp he)

lemma IsLabel.trimChars_toList {label : String} (h : IsLabel label) :
    Text.trimChars label.toList = label.toList := by
  rw [← Text.toList_trim, h.trimmed]

lemma trimChars_startMarker : Text.trimChars startMarker.toList = startMarker.toList := by decide
lemma trimChars_endMarker : Text.trimChars endMarker.toList = endMarker.toList := by decide

@[simp] lemma parseStart_empty : parseStart "" = none := by decide
@[simp] lemma isEnd_empty : isEnd "" = false := by decide

lemma labelOf_cons_label {label : String} (h : IsLabel label) :
    labelOf (' ' :: label.toList) = some label := by
  have ht : Text.trimChars (' ' :: label.toList) = label.toList := by
    rw [← List.singleton_append, Text.trimChars_append_left (by decide), h.trimChars_toList]
  have hne : label.toList.isEmpty = false := List.isEmpty_eq_false_iff.mpr h.toList_ne_nil
  simp [labelOf, ht, hne]

/-- A start marker is read back with its label, at any indent. -/
theorem parseStart_startLine {label : Option String} {indent : String}
    (hi : Text.isBlankText indent = true) (hl : ∀ l ∈ label, IsLabel l) :
    parseStart (startLine label indent) = some label := by
  unfold parseStart
  cases label with
  | none =>
    have ht : Text.trimChars (startLine none indent).toList = startMarker.toList ++ [] := by
      simp only [startLine, String.toList_append, Text.trimChars_append_left hi,
        trimChars_startMarker, List.append_nil]
    rw [afterPrefix?_eq_some.mpr ht]
  | some label =>
    have h := hl label rfl
    have ht : Text.trimChars (startLine (some label) indent).toList =
        startMarker.toList ++ (' ' :: label.toList) := by
      simp only [startLine, String.toList_append, List.append_assoc,
        Text.trimChars_append_left hi]
      rw [← List.append_assoc, Text.trimChars_append trimChars_startMarker h.trimChars_toList
        (by decide) h.toList_ne_nil]
      simp
    rw [afterPrefix?_eq_some.mpr ht]
    simp only [labelOf_cons_label h]
    rfl

/-- An end marker is read back, at any indent. -/
theorem isEnd_endLine {indent : String} (hi : Text.isBlankText indent = true) :
    isEnd (endLine indent) = true := by
  have ht : Text.trim (endLine indent) = endMarker := by
    apply String.toList_inj.mp
    rw [Text.toList_trim, endLine, String.toList_append, Text.trimChars_append_left hi,
      trimChars_endMarker]
  rw [isEnd, ht, beq_self_eq_true]

lemma oneLine_startLine {label : Option String} {indent : String} (hi : Text.OneLine indent)
    (hl : ∀ l ∈ label, Text.OneLine l) : Text.OneLine (startLine label indent) := by
  have hm : Text.OneLine startMarker := by decide
  cases label with
  | none => exact Text.oneLine_append.mpr ⟨hi,hm⟩
  | some label =>
    have hs : Text.OneLine " " := by decide
    simp only [startLine, Text.oneLine_append]
    exact ⟨⟨⟨hi,hm⟩,hs⟩,hl label rfl⟩

lemma oneLine_endLine {indent : String} (hi : Text.OneLine indent) :
    Text.OneLine (endLine indent) :=
  Text.oneLine_append.mpr ⟨hi,by decide⟩

/-- The label that is read from a line can be written on a line. -/
theorem isLabel_of_parseStart {line label : String} (hline : Text.OneLine line)
    (h : parseStart line = some (some label)) : IsLabel label := by
  unfold parseStart at h
  split at h
  · contradiction
  · cases h
  · next c rest hrest =>
    have hcs := afterPrefix?_eq_some.mp hrest
    split at h
    · rw [Option.some.injEq, labelOf] at h
      split at h
      · contradiction
      · next hne =>
        rw [Option.some.injEq] at h
        subst h
        refine ⟨?_,?_,?_⟩
        · intro he
          apply hne
          rw [String.ofList_eq_empty_iff.mp he]
          rfl
        · apply String.toList_inj.mp
          rw [Text.toList_trim, String.toList_ofList, Text.trimChars_trimChars]
        · intro hlf
          rw [String.toList_ofList] at hlf
          apply hline
          apply Text.trimChars_subset
          rw [hcs]
          exact List.mem_append_right _ (Text.trimChars_subset _ hlf)
    · contradiction

end DesignCompiler.UserBlocks
