import DesignCompiler.Proofs.Markup.Rendering
import DesignCompiler.Proofs.Styling.Counting
import Mathlib.Data.List.Nodup

/-! What a run of styling has counted at its end. Every lookup for an element is counted once: by
the markup if the element is rendered, or else by the style sheet. -/
namespace DesignCompiler
open Styling

namespace Styling

/-- Elements that are part of others of different identities are found again by their identities. -/
lemma perm_filter_of_sublist {ks hs : List ElementHead} (hsub : ks.Sublist hs)
    (hids : (hs.map (·.id)).Nodup) {q : ElementHead → Bool}
    (hq : ∀ h, q h = true ↔ h.id ∈ ks.map (·.id)) : (hs.filter q).Perm ks := by
  have hnodup : hs.Nodup := List.Nodup.of_map _ hids
  rw [List.perm_ext_iff_of_nodup (hnodup.filter q) (hsub.nodup hnodup)]
  intro h
  rw [List.mem_filter, hq, List.mem_map]
  constructor
  · rintro ⟨hh,g,hg,hid⟩
    rwa [← List.inj_on_of_nodup_map hids (hsub.subset hg) hh hid]
  · exact fun hh => ⟨hsub.subset hh,h,hh,rfl⟩

/-- The elements that have no name and those that were styled make up all of them, apart from the
ones for which nothing is looked up. -/
lemma sum_lookups_new {s : Scheme} {c : StyleCollector} {log : StyleLog} {ks hs : List ElementHead}
    (hr : Records s c log) (hlog : log.map (·.1) = ks.filter s.declares) (hsub : ks.Sublist hs)
    (hids : (hs.map (·.id)).Nodup) :
    (ks.map s.lookups).sum + ((hs.filter (isNew c)).map s.lookups).sum = (hs.map s.lookups).sum := by
  have hnamed : ∀ h, (!isNew c h) = true ↔ h.id ∈ (ks.filter s.declares).map (·.id) := by
    intro h
    rw [← hlog, List.map_map, isNew, Option.not_isNone, Option.isSome_iff_ne_none, Ne,
      hr.nameFor?_eq_none_iff, not_not]
    rfl
  have hperm := perm_filter_of_sublist (List.filter_sublist.trans hsub) hids hnamed
  have hsplit := List.sum_map_filter_add_sum_map_filter_not (isNew c · = true) s.lookups hs
  calc (ks.map s.lookups).sum + ((hs.filter (isNew c)).map s.lookups).sum
      = ((hs.filter (isNew c)).map s.lookups).sum +
          ((ks.filter s.declares).map s.lookups).sum := by rw [sum_lookups_filter, add_comm]
    _ = ((hs.filter (isNew c)).map s.lookups).sum +
          ((hs.filter (!isNew c ·)).map s.lookups).sum := by rw [(hperm.map _).sum_eq]
    _ = (hs.map s.lookups).sum := by simpa using hsplit

end Styling

namespace Markup
variable (st : Setting) (p : Progress) (component : String) (root : Element)

/-- The markup counts the lookups of the elements that it renders. -/
lemma tally_build (hb : st.scheme.backend ≠ .tailwind) :
    (build st p component root).1.tally = p.tally + ((rendered root).map st.scheme.lookups).sum := by
  rw [← (renders_build st p component root).progress]
  exact tally_styleAll hb p _

/-- The style sheet counts the others, when the identities of the elements differ. -/
lemma tally_styleSheet (hb : st.scheme.backend = .cssModules)
    (hids : (root.walk.map (·.id)).Nodup) :
    (styleSheet st.scheme (build st p.reset component root).1 [root]).1.tally =
      (root.walk.map st.scheme.lookups).sum := by
  have hne : st.scheme.backend ≠ .tailwind := by
    rw [hb]
    decide
  have hsub := rendered_sublist_walk root
  obtain ⟨log,hlog,hr,-⟩ := (Records.empty st.scheme).styleAll (p := p.reset) hne
    (fun _ _ => List.not_mem_nil) (hids.sublist (hsub.map _))
  rw [List.nil_append, (renders_build st p.reset component root).progress] at hr
  have hsheet : st.scheme.hasStyleSheet = true := beq_iff_eq.mpr hb
  unfold styleSheet
  rw [if_pos hsheet]
  dsimp only
  rw [List.flatMap_singleton, tally_collectRules _ hids, tally_build st p.reset component root hne,
    ← sum_lookups_new hr hlog hsub hids, add_assoc]
  exact zero_add _

/-- Every lookup of a run is counted once. After the markup of a tree whose identities differ and its
style sheet, the count is the sum of what the declarations of each element look up by themselves.
Where definitions stand ahead of the component, it is the sum over the elements that the markup
opens. -/
theorem lookups_counted_once :
    let built := build st p.reset component root
    let lookups (h : ElementHead) : Tally := (declarations st.scheme.tokens h).2
    (st.scheme.backend = .cssModules → (root.walk.map (·.id)).Nodup →
      (styleSheet st.scheme built.1 [root]).1.tally = Tally.sum (root.walk.map lookups)) ∧
    (st.scheme.backend = .styledComponents ∨ st.scheme.backend = .emotion →
      built.1.tally = Tally.sum ((rendered root).map lookups) ∧
      (openings built.2.root.parts).map (·.tag) = (rendered root).map (·.tag)) := by
  intro built lookups
  rw [Tally.sum_eq, Tally.sum_eq]
  refine ⟨tally_styleSheet st p component root,fun hb => ⟨?_,?_⟩⟩
  · have hne : st.scheme.backend ≠ .tailwind := by
      obtain hb | hb := hb <;> rw [hb] <;> decide
    exact (tally_build st p.reset component root hne).trans (zero_add _)
  · exact (renders_build st p.reset component root).tags

/-- Two rows of which the markup renders the first as a template: the style sheet looks up the gap
of the second. -/
theorem lookups_counted_once_rows :
    let row (id : String) : ElementHead :=
      { ElementHead.bare id .divider "hr" "Row" with layout := { Layout.plain with gap := some 8.0 } }
    let list : ElementHead := { ElementHead.bare "0" .container "div" "List" with
      remarks := { Remarks.none with isRepeating := true, repetition := some ⟨0,[0,1]⟩ } }
    let root : Element := .mk list [.leaf (row "1"),.leaf (row "2")]
    let st (b : Backend) : Setting := ⟨⟨b,false,.empty⟩,.empty,.standard⟩
    let built (b : Backend) := build (st b) Progress.start.reset "List" root
    (styleSheet (st .cssModules).scheme (built .cssModules).1 [root]).1.tally = ⟨0,2,false⟩ ∧
      (built .cssModules).1.tally = ⟨0,1,false⟩ ∧ (built .emotion).1.tally = ⟨0,1,false⟩ := by
  intro row list root st built
  have hids : (root.walk.map (·.id)).Nodup := by decide +kernel
  obtain ⟨hsheet,-⟩ := lookups_counted_once (st .cssModules) Progress.start "List" root
  obtain ⟨-,hmarkup⟩ := lookups_counted_once (st .emotion) Progress.start "List" root
  exact ⟨hsheet rfl hids,rfl,(hmarkup (.inr rfl)).1⟩

end Markup

end DesignCompiler
