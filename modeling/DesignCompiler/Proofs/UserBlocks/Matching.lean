import DesignCompiler.UserBlocks.Merge
import Mathlib.Data.List.ReduceOption

/-! Which previous block each fresh block takes. The computed sources are the two rules of the
matching, and with distinct fresh identities no previous block is taken twice. -/
namespace DesignCompiler.UserBlocks

/-- Fresh block `i` takes previous block `j`: the first one with its identity or, when there is
none, the one with its number that no fresh block takes by identity. -/
inductive Takes (previous fresh : List UserBlock) : ℕ → ℕ → Prop
  | byId {i j : ℕ} {b : UserBlock} (place : fresh[i]? = some b)
    (first : previous.findIdx? (·.id == b.id) = some j) : Takes previous fresh i j
  | byNumber {i : ℕ} {b : UserBlock} (place : fresh[i]? = some b)
    (unknown : ∀ p ∈ previous, p.id ≠ b.id) (bound : i < previous.length)
    (free : ∀ c ∈ fresh, previous.findIdx? (·.id == c.id) ≠ some i) : Takes previous fresh i i

/-- Some fresh block takes previous block `j`. -/
def Taken (previous fresh : List UserBlock) (j : ℕ) : Prop := ∃ i, Takes previous fresh i j

section
variable {previous fresh : List UserBlock}

lemma contains_sourcesById {j : ℕ} : (sourcesById previous fresh).contains (some j) = true ↔
    ∃ c ∈ fresh, previous.findIdx? (·.id == c.id) = some j := by
  simp [sourcesById]

lemma findIdx?_id_eq_none {id : String} :
    previous.findIdx? (·.id == id) = none ↔ ∀ p ∈ previous, p.id ≠ id := by
  simp

lemma getElem?_sources_eq (i : ℕ) : (sources previous fresh)[i]? = fresh[i]?.map fun b =>
    (previous.findIdx? (·.id == b.id)).or
      (if i < previous.length && !(sourcesById previous fresh).contains (some i)
        then some i else none) := by
  simp only [sources, List.getElem?_mapIdx]
  simp only [sourcesById, List.getElem?_map, Option.map_map]
  congr 1
  funext b
  dsimp only [Function.comp_apply]
  cases previous.findIdx? (·.id == b.id) <;> rfl

/-- The computed sources are what the rules say. -/
theorem getElem?_sources {i j : ℕ} :
    (sources previous fresh)[i]? = some (some j) ↔ Takes previous fresh i j := by
  rw [getElem?_sources_eq, Option.map_eq_some_iff]
  constructor
  · rintro ⟨b,hb,hm⟩
    cases hs : previous.findIdx? (·.id == b.id) with
    | some k =>
      rw [hs, Option.some_or, Option.some.injEq] at hm
      exact .byId hb (hm ▸ hs)
    | none =>
      rw [hs, Option.none_or, Option.ite_none_right_eq_some, Option.some.injEq, Bool.and_eq_true,
        decide_eq_true_eq, Bool.not_eq_true', Bool.eq_false_iff, Ne, contains_sourcesById] at hm
      obtain ⟨⟨hlt,hfree⟩,rfl⟩ := hm
      refine .byNumber hb (findIdx?_id_eq_none.mp hs) hlt ?_
      intro c hmem he
      exact hfree ⟨c,hmem,he⟩
  · rintro (⟨hb,hj⟩ | ⟨hb,hn,hlt,hfree⟩)
    · exact ⟨_,hb,by rw [hj, Option.some_or]⟩
    · have hc : (sourcesById previous fresh).contains (some i) = false := by
        rw [Bool.eq_false_iff, Ne, contains_sourcesById]
        rintro ⟨c,hmem,he⟩
        exact hfree c hmem he
      refine ⟨_,hb,?_⟩
      rw [findIdx?_id_eq_none.mpr hn, hc, Option.none_or]
      simp [hlt]

lemma mem_sources {j : ℕ} : some j ∈ sources previous fresh ↔ Taken previous fresh j := by
  simp only [List.mem_iff_getElem?, getElem?_sources, Taken]

instance (j : ℕ) : Decidable (Taken previous fresh j) := decidable_of_iff _ mem_sources

lemma Takes.lt_fresh {i j : ℕ} (h : Takes previous fresh i j) : i < fresh.length := by
  obtain ⟨hb,-⟩ | ⟨hb,-,-,-⟩ := h <;> exact (List.getElem?_eq_some_iff.mp hb).1

lemma Takes.lt_previous {i j : ℕ} (h : Takes previous fresh i j) : j < previous.length := by
  obtain ⟨-,hj⟩ | ⟨-,-,hlt,-⟩ := h
  · exact (List.findIdx?_eq_some_iff_getElem.mp hj).1
  · exact hlt

/-- A fresh block takes one previous block at most. -/
lemma Takes.unique {i j k : ℕ} (hj : Takes previous fresh i j) (hk : Takes previous fresh i k) :
    j = k := by
  rw [← getElem?_sources] at hj hk
  rw [hj] at hk
  exact Option.some.inj (Option.some.inj hk)

lemma index_eq_of_id_eq {bs : List UserBlock} (hd : (bs.map (·.id)).Nodup) {i i' : ℕ}
    {b b' : UserBlock} (hb : bs[i]? = some b) (hb' : bs[i']? = some b') (he : b.id = b'.id) :
    i = i' := by
  have hlt : i < (bs.map (·.id)).length := by
    rw [List.length_map]
    exact (List.getElem?_eq_some_iff.mp hb).1
  apply (List.getElem?_inj hlt hd).mp
  rw [List.getElem?_map, List.getElem?_map, hb, hb', Option.map_some, Option.map_some, he]

/-- With distinct fresh identities no previous block is taken twice. -/
theorem Takes.injective (hd : (fresh.map (·.id)).Nodup) {i i' j : ℕ}
    (h : Takes previous fresh i j) (h' : Takes previous fresh i' j) : i = i' := by
  cases h with
  | byId hb hj =>
    cases h' with
    | byId hb' hj' =>
      obtain ⟨_,hid,-⟩ := List.findIdx?_eq_some_iff_getElem.mp hj
      obtain ⟨_,hid',-⟩ := List.findIdx?_eq_some_iff_getElem.mp hj'
      exact index_eq_of_id_eq hd hb hb' ((beq_iff_eq.mp hid).symm.trans (beq_iff_eq.mp hid'))
    | byNumber hb' hn' hlt' hfree' => exact absurd hj (hfree' _ (List.mem_of_getElem? hb))
  | byNumber hb hn hlt hfree =>
    cases h' with
    | byId hb' hj' => exact absurd hj' (hfree _ (List.mem_of_getElem? hb'))
    | byNumber hb' hn' hlt' hfree' => rfl

end

/-- The previous blocks that no fresh block takes, in order. -/
def untaken (previous fresh : List UserBlock) : List UserBlock :=
  (previous.zipIdx.filter fun (_,j) => decide (¬ Taken previous fresh j)).map (·.1)

lemma mem_untaken {previous fresh : List UserBlock} {b : UserBlock} {j : ℕ}
    (hb : previous[j]? = some b) (hj : ¬ Taken previous fresh j) : b ∈ untaken previous fresh := by
  refine List.mem_map.mpr ⟨(b,j),List.mem_filter.mpr ⟨?_,?_⟩,rfl⟩
  · exact List.mk_mem_zipIdx_iff_getElem?.mpr hb
  · exact decide_eq_true hj

/-- The orphans are the blocks that are not taken and not blank. -/
theorem orphans_sources (previous fresh : List UserBlock) :
    orphans previous (sources previous fresh) =
      (untaken previous fresh).filter fun b => !b.isBlank := by
  rw [orphans, untaken, List.filter_map, List.filter_filter]
  congr 2
  funext ⟨b,j⟩
  have hc : (sources previous fresh).contains (some j) = decide (Taken previous fresh j) := by
    rw [Bool.eq_iff_iff, List.contains_iff_mem, mem_sources, decide_eq_true_eq]
  dsimp only [Function.comp_apply]
  rw [hc, decide_not, Bool.and_comm]

/-- The numbers of the previous blocks that are taken are those of the sources, without
repetition. -/
lemma reduceOption_sources_perm {previous fresh : List UserBlock}
    (hd : (fresh.map (·.id)).Nodup) :
    (sources previous fresh).reduceOption.Perm
      ((List.range previous.length).filter fun j => decide (Taken previous fresh j)) := by
  apply (List.perm_ext_iff_of_nodup ?_ (List.nodup_range.filter _)).mpr
  · intro j
    rw [List.reduceOption_mem_iff, mem_sources, List.mem_filter, List.mem_range,
      decide_eq_true_eq]
    constructor
    · rintro ⟨i,hi⟩
      exact ⟨hi.lt_previous,i,hi⟩
    · exact fun h => h.2
  · apply List.pairwise_filterMap.mpr
    apply List.pairwise_iff_getElem.mpr
    rintro i i' hi hi' hlt j hj j' hj' rfl
    have hi := getElem?_sources.mp (List.getElem?_eq_some_iff.mpr ⟨hi,hj⟩)
    have hi' := getElem?_sources.mp (List.getElem?_eq_some_iff.mpr ⟨hi',hj'⟩)
    have he := hi.injective hd hi'
    omega

/-- With distinct fresh identities each previous block is taken by one fresh block or left. -/
theorem taken_add_untaken (previous : List UserBlock) {fresh : List UserBlock}
    (hd : (fresh.map (·.id)).Nodup) :
    (sources previous fresh).countP (·.isSome) + (untaken previous fresh).length =
      previous.length := by
  have ht : (sources previous fresh).countP (·.isSome) =
      (List.range previous.length).countP fun j => decide (Taken previous fresh j) := by
    rw [List.countP_eq_length_filter, List.countP_eq_length_filter,
      ← (reduceOption_sources_perm hd).length_eq, List.reduceOption_length_eq]
  have hu : (untaken previous fresh).length =
      (List.range previous.length).countP fun j => decide (¬ Taken previous fresh j) := by
    rw [untaken, List.length_map, ← List.countP_eq_length_filter, List.range_eq_range',
      ← List.zipIdx_map_snd, List.countP_map]
    rfl
  have hl := List.length_eq_countP_add_countP (fun j => decide (Taken previous fresh j))
    (l := List.range previous.length)
  rw [List.length_range] at hl
  rw [ht, hu]
  simpa using hl.symm

end DesignCompiler.UserBlocks
