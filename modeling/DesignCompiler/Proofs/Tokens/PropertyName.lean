import DesignCompiler.Tokens.Path
import Mathlib.Tactic.Lemma

/-! The names of custom properties. They join the segments of a path, so that two paths may share a
name; paths whose segments have neither hyphens nor underscores do not. -/
namespace DesignCompiler.Tokens

/-- A separated list as its first part and each other part after a separator. -/
lemma intercalate_cons_eq_flatMap {α : Type} (sep l : List α) (ls : List (List α)) :
    sep.intercalate (l :: ls) = l ++ ls.flatMap (sep ++ ·) := by
  induction ls generalizing l with
  | nil => simp
  | cons m ls ih => simp [List.intercalate_cons_cons, ih]

namespace TokenPath

/-- A segment as it stands in the name of a property. -/
def segmentChars (s : String) : List Char := s.toList.map fun c => if c == '.' then '_' else c

/-- A segment from its characters, if it has no underscore. -/
def segmentOf (cs : List Char) : String :=
  String.ofList (cs.map fun c => if c == '_' then '.' else c)

/-- Segments without hyphens, which stand between segments, and without underscores, which stand for
points. -/
def IsPlain (p : TokenPath) : Prop :=
  p.segments ≠ [] ∧ ∀ s ∈ p.segments, '-' ∉ s.toList ∧ '_' ∉ s.toList

instance (p : TokenPath) : Decidable p.IsPlain := inferInstanceAs (Decidable (_ ∧ _))

lemma toList_propertyName (p : TokenPath) :
    p.propertyName.toList = '-' :: '-' :: ['-'].intercalate (p.segments.map segmentChars) := by
  have hchars : (String.toList ∘ fun s : String =>
      String.ofList (s.toList.map fun c => if c == '.' then '_' else c)) = segmentChars := by
    funext s
    exact String.toList_ofList
  rw [propertyName, String.toList_append, String.toList_intercalate, List.map_map, hchars]
  rfl

lemma segmentOf_segmentChars {s : String} (hs : '_' ∉ s.toList) :
    segmentOf (segmentChars s) = s := by
  have hback : ∀ c ∈ s.toList,
      (if (if c == '.' then '_' else c) == '_' then '.' else if c == '.' then '_' else c) = c := by
    intro c hc
    have hne : c ≠ '_' := by
      rintro rfl
      exact hs hc
    by_cases hpoint : c = '.'
    · simp [hpoint]
    · simp [hpoint, hne]
  rw [segmentOf, segmentChars, List.map_map]
  exact (congrArg String.ofList ((List.map_congr_left (g := id) hback).trans (List.map_id _))).trans
    String.ofList_toList

lemma hyphen_notMem_segmentChars {s : String} (hs : '-' ∉ s.toList) : '-' ∉ segmentChars s := by
  intro hmem
  obtain ⟨c,hc,heq⟩ := List.mem_map.mp hmem
  split at heq
  · contradiction
  · exact hs (heq ▸ hc)

/-- The segments of a plain path can be read from the name of its property. -/
lemma segments_eq {p : TokenPath} (hp : p.IsPlain) :
    p.segments = ((p.propertyName.toList.drop 2).splitOn '-').map segmentOf := by
  have hhyphen : ∀ cs ∈ p.segments.map segmentChars, '-' ∉ cs :=
    List.forall_mem_map.mpr fun s hs => hyphen_notMem_segmentChars (hp.2 s hs).1
  have hne : p.segments.map segmentChars ≠ [] := mt List.map_eq_nil_iff.mp hp.1
  rw [toList_propertyName, List.drop_succ_cons, List.drop_succ_cons, List.drop_zero,
    List.splitOn_intercalate _ hhyphen hne, List.map_map]
  refine ((List.map_congr_left (g := id) fun s hs => ?_).trans (List.map_id _)).symm
  exact segmentOf_segmentChars (hp.2 s hs).2

/-- Plain paths have different properties. -/
theorem propertyName_inj {p q : TokenPath} (hp : p.IsPlain) (hq : q.IsPlain) :
    p.propertyName = q.propertyName ↔ p = q := by
  constructor
  · intro h
    have hsegments : p.segments = q.segments := by rw [segments_eq hp, h, ← segments_eq hq]
    cases p
    exact congrArg TokenPath.mk hsegments
  · rintro rfl
    rfl

/-- A character of a property is a mark between segments or in one of them. -/
lemma mem_propertyName {p : TokenPath} {c : Char} (h : c ∈ p.propertyName.toList) :
    c = '-' ∨ c = '_' ∨ ∃ s ∈ p.segments, c ∈ s.toList := by
  have hsegment : ∀ s ∈ p.segments, c ∈ segmentChars s →
      c = '-' ∨ c = '_' ∨ ∃ s ∈ p.segments, c ∈ s.toList := by
    intro s hs hc
    obtain ⟨x,hx,rfl⟩ := List.mem_map.mp hc
    split
    · exact .inr (.inl rfl)
    · exact .inr (.inr ⟨s,hs,hx⟩)
  rw [toList_propertyName, List.mem_cons, List.mem_cons] at h
  obtain rfl | rfl | h := h
  · exact .inl rfl
  · exact .inl rfl
  · cases hp : p.segments with
    | nil =>
      rw [hp] at h
      contradiction
    | cons s ss =>
      rw [hp] at h hsegment
      rw [List.map_cons, intercalate_cons_eq_flatMap, List.mem_append, List.mem_flatMap] at h
      obtain h | ⟨cs,hcs,h⟩ := h
      · exact hsegment s List.mem_cons_self h
      · obtain ⟨s',hs',rfl⟩ := List.mem_map.mp hcs
        obtain h | h := List.mem_append.mp h
        · exact .inl (List.mem_singleton.mp h)
        · exact hsegment s' (List.mem_cons_of_mem _ hs') h

end TokenPath

end DesignCompiler.Tokens
