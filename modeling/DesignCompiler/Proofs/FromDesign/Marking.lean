import DesignCompiler.Proofs.FromDesign.Repetition
import Mathlib.Order.Bounds.Basic

/-! Which repetition an element is marked with. The template is the first child that two more behind
it are like, and the members are the template and all those behind it that are like it. To be alike
is not transitive: a child ahead of the template can be like one of the members. -/
namespace DesignCompiler.FromDesign
open Element

/-! ## Among children -/

/-- The child with one number has the structure of that with another. -/
def Alike (es : List Element) (i j : ℕ) : Prop :=
  ∃ (hi : i < es.length) (hj : j < es.length), sameStructure es[i] es[j] = true

/-- At least two children after a child have its structure. -/
def Repeats (es : List Element) (i : ℕ) : Prop :=
  ∃ j k, i < j ∧ j < k ∧ Alike es i j ∧ Alike es i k

/-- The members of a repetition are the template and, in increasing order, all children after it that
have its structure. -/
def HasMembers (es : List Element) (r : Repeat) : Prop :=
  ∃ later, r.members = r.template :: later ∧ later.Pairwise (· < ·) ∧
    ∀ j, j ∈ later ↔ r.template < j ∧ Alike es r.template j

/-- The first repetition among those whose template has at least a given number. -/
def IsFirstFrom (es : List Element) (start : ℕ) : Option Repeat → Prop
  | none => ∀ i, start ≤ i → ¬ Repeats es i
  | some r => IsLeast {i | start ≤ i ∧ Repeats es i} r.template ∧ HasMembers es r

/-- The matches are numbers of elements that are alike. -/
lemma mem_matchesFrom {template : Element} {i k : ℕ} {es : List Element} :
    k ∈ matchesFrom template i es ↔
      ∃ j, ∃ h : j < es.length, k = i+j ∧ sameStructure template es[j] = true := by
  induction es generalizing i with
  | nil => simp [matchesFrom]
  | cons e es ih =>
    have hcons : k ∈ matchesFrom template i (e :: es) ↔
        k = i ∧ sameStructure template e = true ∨ k ∈ matchesFrom template (i+1) es := by
      rw [matchesFrom]
      split <;> simp [*]
    rw [hcons, ih]
    constructor
    · rintro (⟨rfl,he⟩ | ⟨j,hj,rfl,he⟩)
      · exact ⟨0,Nat.succ_pos _,rfl,he⟩
      · exact ⟨j+1,Nat.succ_lt_succ hj,by omega,he⟩
    · rintro ⟨_ | j,hj,rfl,he⟩
      · exact .inl ⟨rfl,he⟩
      · exact .inr ⟨j,Nat.lt_of_succ_lt_succ hj,by omega,he⟩

lemma le_of_mem_matchesFrom {template : Element} {i k : ℕ} {es : List Element}
    (hk : k ∈ matchesFrom template i es) : i ≤ k ∧ k < i+es.length := by
  obtain ⟨j,hj,rfl,-⟩ := mem_matchesFrom.mp hk
  exact ⟨Nat.le_add_right i j,Nat.add_lt_add_left hj i⟩

lemma pairwise_matchesFrom (template : Element) (i : ℕ) (es : List Element) :
    (matchesFrom template i es).Pairwise (· < ·) := by
  induction es generalizing i with
  | nil => exact .nil
  | cons e es ih =>
    rw [matchesFrom]
    split
    · exact .cons (fun k hk => (le_of_mem_matchesFrom hk).1) (ih (i+1))
    · exact ih (i+1)

section
variable {before es : List Element} {e : Element}

lemma two_le_length_iff {l : List ℕ} (h : l.Pairwise (· < ·)) :
    2 ≤ l.length ↔ ∃ j ∈ l, ∃ k ∈ l, j < k := by
  constructor
  · intro hl
    obtain ⟨j,k,rest,rfl⟩ : ∃ j k rest, l = j :: k :: rest := by
      match l with
      | j :: k :: rest => exact ⟨j,k,rest,rfl⟩
    exact ⟨j,by simp,k,by simp,List.rel_of_pairwise_cons h (by simp)⟩
  · rintro ⟨j,hj,k,hk,hlt⟩
    by_contra hl
    have hone : l.length = 1 := by
      have := List.length_pos_of_mem hj
      omega
    obtain ⟨m,rfl⟩ := List.length_eq_one_iff.mp hone
    rw [List.mem_singleton] at hj hk
    omega

lemma alike_iff {m : ℕ} : Alike (before ++ e :: es) before.length (before.length+1+m) ↔
    ∃ h : m < es.length, sameStructure e es[m] = true := by
  have hlength : before.length+1+m < (before ++ e :: es).length ↔ m < es.length := by
    rw [List.length_append, List.length_cons]
    omega
  have hlast (h : before.length+1+m < (before ++ e :: es).length) (hm : m < es.length) :
      (before ++ e :: es)[before.length+1+m] = es[m] := by
    rw [List.getElem_append_right (by omega)]
    simp [Nat.add_assoc, Nat.add_comm 1 m]
  constructor
  · rintro ⟨_,h,hsame⟩
    have hm := hlength.mp h
    exact ⟨hm,by simpa [hlast h hm] using hsame⟩
  · rintro ⟨hm,hsame⟩
    have h := hlength.mpr hm
    exact ⟨by simp,h,by simpa [hlast h hm] using hsame⟩

/-- The matches of a child are those after it that have its structure. -/
lemma mem_matchesFrom_iff_alike {j : ℕ} : j ∈ matchesFrom e (before.length+1) es ↔
    before.length < j ∧ Alike (before ++ e :: es) before.length j := by
  rw [mem_matchesFrom]
  constructor
  · rintro ⟨m,hm,rfl,hsame⟩
    exact ⟨by omega,alike_iff.mpr ⟨hm,hsame⟩⟩
  · rintro ⟨hlt,halike⟩
    obtain ⟨m,rfl⟩ := Nat.exists_eq_add_of_le hlt
    obtain ⟨hm,hsame⟩ := alike_iff.mp halike
    exact ⟨m,hm,rfl,hsame⟩

lemma repeats_iff : Repeats (before ++ e :: es) before.length ↔
    minRepeat ≤ (before.length :: matchesFrom e (before.length+1) es).length := by
  have hlength : minRepeat ≤ (before.length :: matchesFrom e (before.length+1) es).length ↔
      2 ≤ (matchesFrom e (before.length+1) es).length := by
    rw [minRepeat, List.length_cons]
    omega
  rw [hlength, two_le_length_iff (pairwise_matchesFrom ..)]
  simp only [mem_matchesFrom_iff_alike]
  constructor
  · rintro ⟨j,k,hj,hk,hij,hik⟩
    exact ⟨j,⟨hj,hij⟩,k,⟨hj.trans hk,hik⟩,hk⟩
  · rintro ⟨j,⟨hj,hij⟩,k,⟨-,hik⟩,hk⟩
    exact ⟨j,k,hj,hk,hij,hik⟩

/-- The search among the children from some number on finds the first repetition. -/
lemma isFirstFrom_repetitionFrom (before es : List Element) :
    IsFirstFrom (before ++ es) before.length (repetitionFrom before.length es) := by
  -- all children stay the same, and one after the other passes to those that the search has left
  induction es generalizing before with
  | nil =>
    rintro i hi ⟨j,-,-,-,⟨hlt,-⟩,-⟩
    rw [List.append_nil] at hlt
    omega
  | cons e es ih =>
    have hrest := ih (before ++ [e])
    rw [List.append_assoc, List.singleton_append, List.length_append, List.length_singleton] at hrest
    rw [repetitionFrom]
    split
    · next henough =>
      refine ⟨⟨⟨le_rfl,repeats_iff.mpr henough⟩,fun i hi => hi.1⟩,_,rfl,pairwise_matchesFrom ..,
        fun j => mem_matchesFrom_iff_alike⟩
    · next hfew =>
      -- the child itself is no template, so the bound moves past it
      have hnext : ∀ i, before.length ≤ i ∧ Repeats (before ++ e :: es) i ↔
          before.length+1 ≤ i ∧ Repeats (before ++ e :: es) i := by
        intro i
        constructor
        · rintro ⟨hi,hr⟩
          refine ⟨Nat.lt_of_le_of_ne hi ?_,hr⟩
          rintro rfl
          exact hfew (repeats_iff.mp hr)
        · rintro ⟨hi,hr⟩
          exact ⟨Nat.le_of_succ_le hi,hr⟩
      cases hf : repetitionFrom (before.length+1) es with
      | none =>
        rw [hf] at hrest
        exact fun i hi hr => hrest i ((hnext i).mp ⟨hi,hr⟩).1 hr
      | some r =>
        rw [hf] at hrest
        rw [IsFirstFrom, Set.ext hnext]
        exact hrest

/-- There is nothing to detect among children exactly if none of them repeats. -/
lemma isSome_detectRepetition (es : List Element) :
    (detectRepetition es).isSome = true ↔ ∃ i, Repeats es i := by
  have hfirst := isFirstFrom_repetitionFrom [] es
  rw [detectRepetition]
  cases hr : repetitionFrom 0 es with
  | none =>
    rw [List.length_nil, hr] at hfirst
    exact iff_of_false Bool.false_ne_true fun ⟨i,hi⟩ => hfirst i (Nat.zero_le i) hi
  | some r =>
    rw [List.length_nil, hr] at hfirst
    exact iff_of_true rfl ⟨_,hfirst.1.1.2⟩

/-- What is detected among children is the first repetition of all. -/
lemma of_detectRepetition {r : Repeat} (hr : detectRepetition es = some r) :
    IsLeast {i | Repeats es i} r.template ∧ HasMembers es r := by
  have hfirst := isFirstFrom_repetitionFrom [] es
  rw [detectRepetition] at hr
  rw [List.length_nil, hr] at hfirst
  simpa only [IsFirstFrom, List.nil_append, Nat.zero_le, true_and] using hfirst

lemma HasMembers.three_le_length {r : Repeat} (hm : HasMembers es r) (hr : Repeats es r.template) :
    3 ≤ r.members.length := by
  obtain ⟨later,hmembers,hsorted,hlater⟩ := hm
  obtain ⟨j,k,hj,hk,hij,hik⟩ := hr
  have htwo := (two_le_length_iff hsorted).mpr
    ⟨j,(hlater j).mpr ⟨hj,hij⟩,k,(hlater k).mpr ⟨hj.trans hk,hik⟩,hk⟩
  rw [hmembers, List.length_cons]
  omega

end

/-! ## In a tree -/

/-- Marking does not change which elements have one structure. -/
theorem sameStructure_markRepetitions (a b : Element) :
    sameStructure (markRepetitions a) (markRepetitions b) = sameStructure a b := by
  have hkind := IgnoresRepetition.markRepetitions (v := (·.kind)) fun _ _ _ => rfl
  have hname := IgnoresRepetition.markRepetitions (v := (·.name)) fun _ _ _ => rfl
  have hlayout := IgnoresRepetition.markRepetitions (v := (·.layout)) fun _ _ _ => rfl
  have hempty (e : Element) : (markRepetitions e).children.isEmpty = e.children.isEmpty := by
    rw [children_markRepetitions, List.isEmpty_map]
  have hlength (e : Element) : (markRepetitions e).children.length = e.children.length := by
    rw [children_markRepetitions, List.length_map]
  simp only [sameStructure, hkind, hname, hlayout, hempty, hlength]

lemma matchesFrom_map {f : Element → Element} (hf : ∀ a b, sameStructure (f a) (f b) = sameStructure a b)
    (e : Element) (start : ℕ) (es : List Element) :
    matchesFrom (f e) start (es.map f) = matchesFrom e start es := by
  induction es generalizing start with
  | nil => rfl
  | cons d es ih => rw [List.map_cons, matchesFrom, matchesFrom, hf, ih]

lemma repetitionFrom_map {f : Element → Element}
    (hf : ∀ a b, sameStructure (f a) (f b) = sameStructure a b) (start : ℕ) (es : List Element) :
    repetitionFrom start (es.map f) = repetitionFrom start es := by
  induction es generalizing start with
  | nil => rfl
  | cons e es ih => simp only [List.map_cons, repetitionFrom, matchesFrom_map hf, ih]

/-- The marks inside the children do not count. -/
lemma markRepeat_map (h : ElementHead) (es : List Element) :
    markRepeat h (es.map markRepetitions) = markRepeat h es := by
  unfold markRepeat detectRepetition
  rw [repetitionFrom_map sameStructure_markRepetitions]

lemma markRepeat_markRepeat (h : ElementHead) (es : List Element) :
    markRepeat (markRepeat h es) es = markRepeat h es := by
  unfold markRepeat
  cases detectRepetition es <;> rfl

/-- Marking twice is marking once. -/
theorem markRepetitions_markRepetitions (e : Element) :
    markRepetitions (markRepetitions e) = markRepetitions e := by
  induction e with
  | mk h es ih =>
    have hchildren : (es.map markRepetitions).map markRepetitions = es.map markRepetitions := by
      rw [List.map_map]
      exact List.map_congr_left ih
    rw [markRepetitions_mk, markRepetitions_mk, hchildren, markRepeat_map, markRepeat_map,
      markRepeat_markRepeat]

/-- A head without the remarks about repetition. -/
def withoutMark (h : ElementHead) : ElementHead :=
  { h with remarks := { h.remarks with isRepeating := false, repetition := none } }

mutual

/-- A tree without the remarks about repetition. -/
def withoutMarks : Element → Element
  | .mk h es => .mk (withoutMark h) (withoutMarksAll es)

def withoutMarksAll : List Element → List Element
  | [] => []
  | e :: es => withoutMarks e :: withoutMarksAll es

end

lemma withoutMarksAll_eq_map (es : List Element) : withoutMarksAll es = es.map withoutMarks := by
  induction es with
  | nil => rfl
  | cons e es ih => rw [withoutMarksAll, ih, List.map_cons]

lemma withoutMarks_mk (h : ElementHead) (es : List Element) :
    withoutMarks (.mk h es) = .mk (withoutMark h) (es.map withoutMarks) := by
  rw [withoutMarks, withoutMarksAll_eq_map]

/-- Marking changes nothing but the marks. -/
theorem withoutMarks_markRepetitions (e : Element) :
    withoutMarks (markRepetitions e) = withoutMarks e := by
  induction e with
  | mk h es ih =>
    have hhead := IgnoresRepetition.markRepeat (v := withoutMark) (fun _ _ _ => rfl) h
    have hchildren : (es.map markRepetitions).map withoutMarks = es.map withoutMarks := by
      rw [List.map_map]
      exact List.map_congr_left ih
    rw [markRepetitions_mk, withoutMarks_mk, withoutMarks_mk, hhead, hchildren]

/-- A head that carries no repetition. -/
def Markless (h : ElementHead) : Prop := h.remarks.isRepeating = false ∧ h.remarks.repetition = none

instance (h : ElementHead) : Decidable (Markless h) := inferInstanceAs (Decidable (_ ∧ _))

lemma withoutMark_of_markless {h : ElementHead} (hh : Markless h) : withoutMark h = h := by
  obtain ⟨hrepeating,hrepetition⟩ := hh
  rw [withoutMark, ← hrepeating, ← hrepetition]

lemma withoutMarks_of_markless {e : Element} (he : ∀ h ∈ e.walk, Markless h) : withoutMarks e = e := by
  induction e with
  | mk h es ih =>
    rw [walk_mk, List.forall_mem_cons] at he
    have hes : es.map withoutMarks = es := by
      refine (List.map_congr_left fun d hd => ih d hd fun g hg => he.2 g ?_).trans (List.map_id _)
      exact List.mem_flatMap.mpr ⟨d,hd,hg⟩
    rw [withoutMarks_mk, withoutMark_of_markless he.1, hes]

/-- An element is marked as repeating exactly if it has a repetition, which it has exactly if some
child repeats. The repetition is then the first one, and it has three members at least. -/
structure IsMarked (e : Element) : Prop where
  isRepeating_iff : e.head.remarks.isRepeating = true ↔ e.head.remarks.repetition.isSome = true
  isSome_iff : e.head.remarks.repetition.isSome = true ↔ ∃ i, Repeats e.children i
  template : ∀ r ∈ e.head.remarks.repetition, IsLeast {i | Repeats e.children i} r.template
  members : ∀ r ∈ e.head.remarks.repetition, HasMembers e.children r
  enough : ∀ r ∈ e.head.remarks.repetition, 3 ≤ r.members.length

lemma repetition_markRepeat {h : ElementHead} (hh : Markless h) (es : List Element) :
    (markRepeat h es).remarks.isRepeating = (detectRepetition es).isSome ∧
      (markRepeat h es).remarks.repetition = detectRepetition es := by
  unfold markRepeat
  cases detectRepetition es with
  | none => exact hh
  | some r => exact ⟨rfl,rfl⟩

/-- A head without a mark gets the mark that its children ask for. -/
lemma isMarked_markRepeat {h : ElementHead} (hh : Markless h) (es : List Element) :
    IsMarked (.mk (markRepeat h es) es) := by
  obtain ⟨hrepeating,hrepetition⟩ := repetition_markRepeat hh es
  have hdetected : ∀ r ∈ (markRepeat h es).remarks.repetition,
      IsLeast {i | Repeats es i} r.template ∧ HasMembers es r := by
    rw [hrepetition]
    exact fun r hr => of_detectRepetition hr
  constructor
  · rw [head, hrepeating, hrepetition]
  · rw [head, hrepetition]
    exact isSome_detectRepetition es
  · exact fun r hr => (hdetected r hr).1
  · exact fun r hr => (hdetected r hr).2
  · exact fun r hr => (hdetected r hr).2.three_le_length (hdetected r hr).1.1

/-- In a tree that carries no repetition yet, marking gives every element the first repetition among
its children, who are alike as they were before. It changes nothing else, and marking again changes
nothing at all. -/
theorem repetitions_marked {e : Element} (he : ∀ h ∈ e.walk, Markless h) :
    (∀ f ∈ (markRepetitions e).subtrees, IsMarked f) ∧
      (∀ a b, sameStructure (markRepetitions a) (markRepetitions b) = sameStructure a b) ∧
      withoutMarks (markRepetitions e) = e ∧
      markRepetitions (markRepetitions e) = markRepetitions e := by
  refine ⟨?_,sameStructure_markRepetitions,?_,markRepetitions_markRepetitions e⟩
  · rw [subtrees_markRepetitions, List.forall_mem_map]
    rintro ⟨h,es⟩ hf
    rw [markRepetitions_mk]
    refine isMarked_markRepeat (he h ?_) _
    rw [← map_head_subtrees]
    exact List.mem_map_of_mem hf
  · rw [withoutMarks_markRepetitions, withoutMarks_of_markless he]

/-- A title and three rows, one of which holds three texts with one name. -/
theorem repetitions_marked_rows :
    let row (id name : String) (es : List Element) := Element.mk (.bare id .container "div" name) es
    let cell (id : String) := Element.leaf (.bare id .text "p" "Cell")
    let list := row "0" "List" [.text "1" "h2" "Rows",row "2" "Row 1" [],
      row "3" "Row 2" [cell "5",cell "6",cell "7"],row "4" "Row" []]
    (∀ h ∈ list.walk, Markless h) ∧ (∀ f ∈ (markRepetitions list).subtrees, IsMarked f) ∧
      withoutMarks (markRepetitions list) = list ∧
      (markRepetitions list).walk.map (·.remarks.repetition) =
        [some ⟨1,[1,2,3]⟩,none,none,some ⟨0,[0,1,2]⟩,none,none,none,none] := by
  intro row cell list
  have hlist : ∀ h ∈ list.walk, Markless h := by decide +kernel
  obtain ⟨hmarked,-,hrest,-⟩ := repetitions_marked hlist
  exact ⟨hlist,hmarked,hrest,by decide +kernel⟩

end DesignCompiler.FromDesign
