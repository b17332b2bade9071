import DesignCompiler.Proofs.Styling.Styler
import Mathlib.Algebra.BigOperators.Group.List.Basic

/-! What styling counts. Every element that is styled adds the lookups for its declarations, and an
element without declarations has none, so that it does not matter how often it is styled. -/
namespace DesignCompiler.Styling

namespace Tally

lemma eq_of_counts {a b : Tally} (hh : a.hits = b.hits) (hf : a.fallbacks = b.fallbacks)
    (hu : a.unreadable = b.unreadable) : a = b := by
  cases a
  cases b
  simp_all

instance : Zero Tally := ⟨zero⟩

instance : AddCommMonoid Tally where
  add_assoc a b c := eq_of_counts (Nat.add_assoc ..) (Nat.add_assoc ..) (Bool.or_assoc ..)
  zero_add a := eq_of_counts (Nat.zero_add _) (Nat.zero_add _) (Bool.false_or _)
  add_zero a := eq_of_counts (Nat.add_zero _) (Nat.add_zero _) (Bool.or_false _)
  add_comm a b := eq_of_counts (Nat.add_comm ..) (Nat.add_comm ..) (Bool.or_comm ..)
  nsmul := nsmulRec

/-- The sum of a list is that of the commutative monoid. -/
lemma sum_eq (ts : List Tally) : sum ts = ts.sum := List.sum_eq_foldl.symm

end Tally

/-! ## Declarations -/

namespace Sheet

/-- A sheet that has looked something up has a declaration to show for it. -/
def Accounts (sh : Sheet) : Prop := sh.1 = [] → sh.2 = .zero

lemma accounts_none : none.Accounts := fun _ => rfl

lemma accounts_plain (ds : List Declaration) : (plain ds).Accounts := fun _ => rfl

lemma accounts_of_ne_nil {sh : Sheet} (h : sh.1 ≠ []) : sh.Accounts := fun he => absurd he h

lemma accounts_append {a b : Sheet} (ha : a.Accounts) (hb : b.Accounts) :
    (a.append b).Accounts := by
  intro he
  obtain ⟨hea,heb⟩ := List.append_eq_nil_iff.mp he
  change a.2 + b.2 = _
  rw [ha hea, hb heb]
  rfl

lemma accounts_join {sheets : List Sheet} (h : ∀ x ∈ sheets, Accounts x) : (join sheets).Accounts :=
  List.foldlRecOn sheets append accounts_none fun _ hs x hx => accounts_append hs (h x hx)

lemma accounts_optional {α : Type} {a : Option α} {f : α → Sheet} (h : ∀ x, (f x).Accounts) :
    (optional a f).Accounts := by
  cases a with
  | none => exact accounts_none
  | some x => exact h x

lemma accounts_matched (property : String) (v : Counted TokenValue) :
    (matched property v).Accounts := accounts_of_ne_nil (List.cons_ne_nil _ _)

lemma accounts_matchedList (property : String) (vs : List (Counted TokenValue)) :
    (matchedList property vs).Accounts := accounts_of_ne_nil (List.cons_ne_nil _ _)

end Sheet

section
variable (t : Tokens.TokenTable)

lemma accounts_layoutSheet (l : Layout) : (layoutSheet t l).Accounts := by
  have hspacing : ∀ property x, (Sheet.optional x fun x =>
      .matched property (matchSpacing t x)).Accounts := fun _ _ =>
    Sheet.accounts_optional fun _ => Sheet.accounts_matched _ _
  refine Sheet.accounts_join ?_
  simp only [List.forall_mem_cons]
  exact ⟨Sheet.accounts_plain _,hspacing _ _,hspacing _ _,hspacing _ _,
    Sheet.accounts_optional fun _ => Sheet.accounts_matchedList _ _,Sheet.accounts_plain _,
    List.forall_mem_nil _⟩

lemma accounts_backgroundSheet (b : Background) : (backgroundSheet t b).Accounts := by
  cases b with
  | solid c => exact Sheet.accounts_matched _ _
  | image i => exact Sheet.accounts_plain _
  | gradient g =>
    unfold backgroundSheet
    dsimp only
    split <;> exact Sheet.accounts_of_ne_nil (List.cons_ne_nil _ _)

lemma accounts_borderSheet (b : Border) : (borderSheet t b).Accounts :=
  Sheet.accounts_of_ne_nil (List.cons_ne_nil _ _)

lemma accounts_radiusSheet (r : Radius) : (radiusSheet t r).Accounts := by
  cases r with
  | uniform r => exact Sheet.accounts_matched _ _
  | corners c => exact Sheet.accounts_plain _

lemma accounts_fontSheet (f : Font) : (fontSheet t f).Accounts := by
  refine Sheet.accounts_join ?_
  simp only [List.forall_mem_cons]
  exact ⟨Sheet.accounts_plain _,Sheet.accounts_matched _ _,Sheet.accounts_plain _,
    Sheet.accounts_optional fun _ => Sheet.accounts_matched _ _,List.forall_mem_nil _⟩

lemma accounts_lookSheet (s : Style) : (lookSheet t s).Accounts := by
  refine Sheet.accounts_join ?_
  simp only [List.forall_mem_cons]
  refine ⟨Sheet.accounts_optional (accounts_backgroundSheet t),
    Sheet.accounts_optional (accounts_borderSheet t),
    Sheet.accounts_optional (accounts_radiusSheet t),?_,Sheet.accounts_plain _,
    Sheet.accounts_optional (accounts_fontSheet t),List.forall_mem_nil _⟩
  split
  · exact Sheet.accounts_none
  · exact Sheet.accounts_matched _ _

/-- Nothing is looked up for an element that has no declarations. -/
theorem accounts_declarations (h : ElementHead) : (declarations t h).Accounts :=
  Sheet.accounts_append (accounts_layoutSheet t h.layout) (accounts_lookSheet t h.style)

end

/-! ## Elements -/

/-- What is counted for the declarations of an element. -/
def Scheme.lookups (s : Scheme) (h : ElementHead) : Tally := (declarations s.tokens h).2

section
variable {s : Scheme} {p : Progress} {h : ElementHead}

lemma lookups_of_not_declares (hd : s.declares h = false) : s.lookups h = 0 := by
  refine accounts_declarations s.tokens h ?_
  simpa [Scheme.declares] using hd

/-- Only the elements that need a style count. -/
lemma sum_lookups_filter (s : Scheme) (hs : List ElementHead) :
    ((hs.filter s.declares).map s.lookups).sum = (hs.map s.lookups).sum := by
  induction hs with
  | nil => rfl
  | cons h hs ih =>
    rw [List.map_cons, List.sum_cons, ← ih]
    cases hd : s.declares h with
    | false => rw [List.filter_cons_of_neg (by simp [hd]), lookups_of_not_declares hd, zero_add]
    | true => rw [List.filter_cons_of_pos hd, List.map_cons, List.sum_cons]

lemma tally_styleByDefinition (s : Scheme) (p : Progress) (h : ElementHead) :
    (styleByDefinition s p h).1.tally = p.tally + s.lookups h := by
  unfold styleByDefinition
  dsimp only
  split <;> rfl

/-- Styling elements by definitions counts the lookups of each. -/
theorem tally_styleAll (hb : s.backend ≠ .tailwind) (p : Progress) (hs : List ElementHead) :
    (styleAll s p hs).1.tally = p.tally + (hs.map s.lookups).sum := by
  induction hs generalizing p with
  | nil => exact (add_zero _).symm
  | cons h hs ih =>
    rw [styleAll, List.map_cons, List.sum_cons, ← add_assoc, ← tally_styleByDefinition,
      ← styleElement_of_ne_tailwind hb]
    exact ih _

/-! ## Style sheets -/

/-- An element without a name is new to a collector. -/
def isNew (c : StyleCollector) (h : ElementHead) : Bool := (c.nameFor? h.id).isNone

lemma tally_beforeRule (s : Scheme) (p : Progress) (h : ElementHead) :
    (beforeRule s p h).tally = p.tally + if isNew p.collector h then s.lookups h else 0 := by
  rw [beforeRule, isNew, ← Option.not_isSome]
  cases (p.collector.nameFor? h.id).isSome with
  | false => exact tally_styleByDefinition s p h
  | true => exact (add_zero _).symm

/-- The names of other elements stay as they are. -/
lemma isNew_beforeRule {g : ElementHead} (hne : h.id ≠ g.id) :
    isNew (beforeRule s p h).collector g = isNew p.collector g := by
  unfold beforeRule
  split
  · rfl
  · cases hd : s.declares h with
    | false => rw [(styleByDefinition_plain hd).1]
    | true =>
      rw [(styleByDefinition_declared hd).1]
      change ((p.collector.reserve h.id _).1.nameFor? g.id).isNone = _
      rw [StyleCollector.nameFor?_reserve, if_neg hne]
      rfl

/-- Collecting the rules of elements of different identities counts the lookups of the new ones. -/
theorem tally_collectRules (p : Progress) {hs : List ElementHead} (hids : (hs.map (·.id)).Nodup) :
    (collectRules s p hs).1.tally =
      p.tally + ((hs.filter (isNew p.collector)).map s.lookups).sum := by
  induction hs generalizing p with
  | nil => exact (add_zero _).symm
  | cons h hs ih =>
    rw [List.map_cons, List.nodup_cons] at hids
    have hlater : hs.filter (isNew (beforeRule s p h).collector) = hs.filter (isNew p.collector) :=
      List.filter_congr fun g hg =>
        isNew_beforeRule fun he => hids.1 (he ▸ List.mem_map_of_mem hg)
    rw [collectRules_cons]
    dsimp only
    rw [ih _ hids.2, hlater, tally_beforeRule, List.filter_cons, add_assoc]
    split
    · rw [List.map_cons, List.sum_cons]
    · rw [zero_add]

end

end DesignCompiler.Styling
