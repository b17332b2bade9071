import DesignCompiler.Element.Basic
import DesignCompiler.Proofs.Text.OneLine

/-! The texts of an element that are written into a component's file as they stand. -/
namespace DesignCompiler
open Text

/-- The texts of a background that are written as they stand. -/
def Background.rawTexts : Background → List String
  | solid _ | gradient _ => []
  | image i => i.imageRef.toList

/-- The texts of a style that are written as they stand. -/
def Style.rawTexts (s : Style) : List String :=
  s.background.toList.flatMap Background.rawTexts ++ (s.font.bind (·.family)).toList

lemma Style.mem_rawTexts_of_background {s : Style} {b : Background} (hb : b ∈ s.background)
    {r : String} (hr : r ∈ b.rawTexts) : r ∈ s.rawTexts :=
  List.mem_append_left _ (List.mem_flatMap.mpr ⟨b,Option.mem_toList.mpr hb,hr⟩)

lemma Style.mem_rawTexts_of_family {s : Style} {f : Font} (hf : f ∈ s.font) {name : String}
    (hname : name ∈ f.family) : name ∈ s.rawTexts :=
  List.mem_append_right _ (Option.mem_toList.mpr (Option.mem_bind_iff.mpr ⟨f,hf,hname⟩))

/-- A remark on one line, which makes no marker of the comment that it stands in. -/
def IsRemark (w : String) : Prop := OneLine w ∧ w.toList.head?.any (· != '@') = true

instance (w : String) : Decidable (IsRemark w) := inferInstanceAs (Decidable (_ ∧ _))

lemma IsRemark.append {w s : String} (hw : IsRemark w) (hs : OneLine s) : IsRemark (w ++ s) := by
  refine ⟨oneLine_append.mpr ⟨hw.1,hs⟩,?_⟩
  obtain ⟨c,hc,hne⟩ := (Option.any_eq_true _ _).mp hw.2
  obtain ⟨cs,hcs⟩ := List.head?_eq_some_iff.mp hc
  rw [String.toList_append, hcs]
  exact hne

/-- An element whose names and whose texts that are written as they stand are all on one line. The
name itself is written for an icon and for an instance only. -/
structure ElementHead.Proper (h : ElementHead) : Prop where
  tag : OneLine h.tag
  name : h.kind = .icon ∨ h.kind = .componentInstance → OneLine h.name
  style : AllOneLine h.style.rawTexts
  warnings : ∀ w ∈ h.remarks.warnings, IsRemark w
  binding : ∀ prop ∈ h.remarks.propBinding, OneLine prop
  overrides : ∀ i ∈ h.instanceOf, AllOneLine (i.overrides.map (·.1))

/-- A prop with a name on one line, and with a default on one line where that is written as it
stands. -/
structure PropDef.Proper (p : PropDef) : Prop where
  name : OneLine p.name
  default : p.type = .boolean → ∀ v ∈ p.default, OneLine v

/-- Other remarks that bind the same prop. -/
lemma ElementHead.Proper.withRemarks {h : ElementHead} (hh : h.Proper) {m : Remarks}
    (hb : m.propBinding = h.remarks.propBinding) (hw : ∀ w ∈ m.warnings, IsRemark w) :
    ({ h with remarks := m } : ElementHead).Proper :=
  ⟨hh.tag,hh.name,hh.style,hw,fun prop hp => hh.binding prop (hb ▸ hp),hh.overrides⟩

end DesignCompiler
