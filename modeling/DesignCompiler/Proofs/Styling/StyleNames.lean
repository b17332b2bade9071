import DesignCompiler.Proofs.Styling.Matches
import DesignCompiler.Proofs.Text.Ascii
import DesignCompiler.Proofs.Text.Words
import Mathlib.Data.List.Find

/-! Colors that are named after a token. The name of a shared style is taken apart into words at
every hyphen, and the keys of a token are not, so that only keys of one word are found by name. -/
namespace DesignCompiler.Styling
open Text Tokens

/-! ## Names of words -/

/-- Words of ASCII letters and digits, at least one. -/
structure AreWords (ws : List (List Char)) : Prop where
  nonempty : ws ≠ []
  words : ∀ w ∈ ws, w ≠ [] ∧ ∀ c ∈ w, c.isAlphanum = true

/-- The name that consists of some words with hyphens between them. -/
def hyphenated (ws : List (List Char)) : String := String.ofList (['-'].intercalate ws)

/-- A word in lowercase. -/
def lowered (w : List Char) : String := String.ofList (w.map Char.toLower)

/-- The words that a name spells in lowercase. -/
def spelledWords (name : String) : List String :=
  (words (!·.isAlphanum) (lower name).toList).map String.ofList

/-- The words that the path of a color spells; a shade that is the default spells none. -/
def pathSpelling (p : TokenPath) : List String :=
  match p.segments with
  | [_,group,shade] => spelledWords group ++ if shade = "DEFAULT" then [] else spelledWords shade
  | _ => []

/-- A text that is one word. -/
def IsWord (s : String) : Prop := s ≠ "" ∧ ∀ c ∈ s.toList, c.isAlphanum = true

instance (s : String) : Decidable (IsWord s) := inferInstanceAs (Decidable (_ ∧ _))

/-- A path of which both keys are one word, and neither is the default. -/
def HasPlainKeys (p : TokenPath) : Prop :=
  ∀ s ∈ p.segments.drop 1, s ≠ "DEFAULT" ∧ IsWord (lower s)

instance (p : TokenPath) : Decidable (HasPlainKeys p) :=
  inferInstanceAs (Decidable (∀ _ ∈ _, _))

lemma isAlphanum_toLower_eq (c : Char) : c.toLower.isAlphanum = c.isAlphanum := by
  by_cases h : c.toNat < 128
  · exact forall_ascii (P := fun c => c.toLower.isAlphanum = c.isAlphanum) (by decide +kernel) h
  · rw [toLower_of_le (Nat.le_of_not_lt h)]

section
variable {ws gs ss : List (List Char)}

lemma words_hyphenated (h : AreWords ws) : words (!·.isAlphanum) (hyphenated ws).toList = ws := by
  rw [hyphenated, String.toList_ofList]
  refine words_intercalate (by decide) fun w hw => ⟨(h.words w hw).1,fun c hc => ?_⟩
  rw [(h.words w hw).2 c hc]
  rfl

/-- A name of words is made of ASCII characters. -/
lemma toNat_lt_of_mem_hyphenated (h : AreWords ws) {c : Char} (hc : c ∈ (hyphenated ws).toList) :
    c.toNat < 128 := by
  rw [hyphenated, String.toList_ofList, mem_intercalate] at hc
  obtain ⟨w,hw,hc⟩ | ⟨rfl,-⟩ := hc
  · exact toNat_lt_of_isAlphanum ((h.words w hw).2 c hc)
  · decide

lemma spelledWords_hyphenated (h : AreWords ws) :
    spelledWords (hyphenated ws) = ws.map lowered := by
  have hascii : CapitalsAreAscii (hyphenated ws) := fun c hc hle =>
    absurd (toNat_lt_of_mem_hyphenated h hc) (Nat.not_lt.mpr hle)
  have hlower : (lower (hyphenated ws)).toList = (hyphenated ws).toList.map Char.toLower := by
    rw [lower_eq_asciiLower hascii, asciiLower, String.toList_ofList]
  rw [spelledWords, hlower, words_map fun c => congrArg not (isAlphanum_toLower_eq c),
    words_hyphenated h, List.map_map]
  rfl

/-- The words of a style name are those of its two parts, unless it says that it is a color. -/
lemma styleNameWords_hyphenated (hg : AreWords gs) (hs : AreWords ss)
    (hcolor : ∀ w ∈ gs.head?, lowered w ≠ "color" ∧ lowered w ≠ "colors") :
    styleNameWords (hyphenated gs ++ "/" ++ hyphenated ss) = (gs ++ ss).map lowered := by
  have hwords : words (!·.isAlphanum) (hyphenated gs ++ "/" ++ hyphenated ss).toList =
      gs ++ ss := by
    have hslash : (hyphenated gs ++ "/" ++ hyphenated ss).toList =
        (hyphenated gs).toList ++ '/' :: (hyphenated ss).toList := by simp
    rw [hslash, words_append_cons (by decide), words_hyphenated hg, words_hyphenated hs]
  have hname : styleNameWords (hyphenated gs ++ "/" ++ hyphenated ss) =
      ((gs ++ ss).map lowered).dropWhile fun w => w == "color" || w == "colors" :=
    congrArg (fun ws => (ws.map lowered).dropWhile fun w => w == "color" || w == "colors") hwords
  obtain ⟨w,gs,rfl⟩ := List.exists_cons_of_ne_nil hg.nonempty
  obtain ⟨hne,hnes⟩ := hcolor w rfl
  rw [hname, List.cons_append, List.map_cons, List.dropWhile_cons_of_neg]
  simp [hne, hnes]

lemma isWord_lowered {w : List Char} (hne : w ≠ []) (h : ∀ c ∈ w, c.isAlphanum = true) :
    IsWord (lowered w) := by
  refine ⟨by simpa [lowered] using hne,?_⟩
  rw [lowered, String.toList_ofList]
  exact List.forall_mem_map.mpr fun c hc => isAlphanum_toLower (h c hc)

lemma spelledWords_of_isWord {s : String} (h : IsWord (lower s)) : spelledWords s = [lower s] := by
  have hwords : words (!·.isAlphanum) (lower s).toList = [(lower s).toList] := by
    refine words_eq_singleton (by simpa using h.1) fun c hc => ?_
    rw [h.2 c hc]
    rfl
  rw [spelledWords, hwords, List.map_singleton, String.ofList_toList]

end

/-! ## Paths that are found by name -/

section
variable {p : TokenPath} {e : TokenPath × String} {wanted : List String} {t : TokenTable}

lemma segments_of_mem_colorEntries (he : e ∈ t.colorEntries) :
    ∃ group shade, e.1.segments = ["colors",group,shade] := by
  obtain ⟨g,-,he⟩ := List.mem_flatMap.mp he
  obtain ⟨s,-,rfl⟩ := List.mem_map.mp he
  exact ⟨g.1,s.1,rfl⟩

lemma hasPlainKeys_iff {group shade : String} (hp : p.segments = ["colors",group,shade]) :
    HasPlainKeys p ↔ ∀ s ∈ [group,shade], s ≠ "DEFAULT" ∧ IsWord (lower s) := by
  rw [HasPlainKeys, hp]
  rfl

/-- A path of plain keys spells what it is compared with. -/
lemma pathSpelling_of_hasPlainKeys {group shade : String}
    (hp : p.segments = ["colors",group,shade]) (h : HasPlainKeys p) :
    pathSpelling p = pathWords p := by
  have hkeys := (hasPlainKeys_iff hp).mp h
  obtain ⟨hgd,hg⟩ := hkeys group List.mem_cons_self
  obtain ⟨hsd,hs⟩ := hkeys shade (List.mem_cons_of_mem _ List.mem_cons_self)
  rw [pathSpelling, pathWords, hp]
  simp [hgd, hsd, spelledWords_of_isWord hg, spelledWords_of_isWord hs]

/-- Only a path of two plain keys is compared with as much as two words. -/
lemma hasPlainKeys_of_pathWords {group shade : String} (hp : p.segments = ["colors",group,shade])
    (hlength : 2 ≤ (pathWords p).length) (hwords : ∀ w ∈ pathWords p, IsWord w) :
    HasPlainKeys p := by
  -- each of the two keys must be counted, so that the filter has kept both
  have hkept : ([group,shade].filter (· != "DEFAULT")) = [group,shade] := by
    refine List.filter_sublist.eq_of_length_le ?_
    simpa [pathWords, hp] using hlength
  have hpath : pathWords p = [group,shade].map lower := by
    rw [pathWords, hp, List.drop_succ_cons, List.drop_zero, hkept]
  refine (hasPlainKeys_iff hp).mpr fun s hs => ⟨?_,hwords _ (hpath ▸ List.mem_map_of_mem hs)⟩
  simpa using List.filter_eq_self.mp hkept s hs

/-- A color is found by some words, two at least, if it spells them in plain keys. -/
lemma pathWords_eq_iff (he : e ∈ t.colorEntries) (hlength : 2 ≤ wanted.length)
    (hwords : ∀ w ∈ wanted, IsWord w) :
    pathWords e.1 = wanted ↔ pathSpelling e.1 = wanted ∧ HasPlainKeys e.1 := by
  obtain ⟨group,shade,hp⟩ := segments_of_mem_colorEntries he
  constructor
  · rintro rfl
    have hplain := hasPlainKeys_of_pathWords hp hlength hwords
    exact ⟨pathSpelling_of_hasPlainKeys hp hplain,hplain⟩
  · rintro ⟨hspelled,hplain⟩
    rw [← pathSpelling_of_hasPlainKeys hp hplain, hspelled]

/-- The first of the colors that spell some words. -/
def namesake? (t : TokenTable) (wanted : List String) : Option (TokenPath × String) :=
  t.colorEntries.find? fun e => pathSpelling e.1 == wanted

/-- The first of the colors that spell some words in plain keys. -/
def plainNamesake? (t : TokenTable) (wanted : List String) : Option (TokenPath × String) :=
  t.colorEntries.find? fun e => pathSpelling e.1 == wanted && decide (HasPlainKeys e.1)

/-- The two searches find the same exactly if the first color has plain keys. -/
lemma plainNamesake?_eq_some_iff (h : namesake? t wanted = some e) :
    plainNamesake? t wanted = some e ↔ HasPlainKeys e.1 := by
  refine ⟨fun hfound => ?_,fun hplain => ?_⟩
  · have hboth := List.find?_some hfound
    exact of_decide_eq_true (Bool.and_eq_true_iff.mp hboth).2
  obtain ⟨hspelled,before,after,hsplit,hbefore⟩ := List.find?_eq_some_iff_append.mp h
  refine List.find?_eq_some_iff_append.mpr ⟨?_,before,after,hsplit,fun a ha => ?_⟩
  · rw [hspelled, decide_eq_true hplain]
    rfl
  · have hne := hbefore a ha
    simp_all only [Bool.not_eq_true', Bool.false_and]

/-- More than two words are not spelled in plain keys. -/
lemma plainNamesake?_eq_none (h : 2 < wanted.length) : plainNamesake? t wanted = none := by
  refine List.find?_eq_none.mpr fun e he hfound => ?_
  obtain ⟨hspelled,hplain⟩ := Bool.and_eq_true_iff.mp hfound
  obtain ⟨group,shade,hp⟩ := segments_of_mem_colorEntries he
  have hlength : (pathWords e.1).length ≤ 2 := by
    rw [pathWords, hp, List.length_map]
    exact List.length_filter_le _ [group,shade]
  rw [← beq_iff_eq.mp hspelled,
    pathSpelling_of_hasPlainKeys hp (of_decide_eq_true hplain)] at h
  exact absurd h (Nat.not_lt.mpr hlength)

/-- The search by name is one for plain keys. -/
lemma namedColor?_eq {name : String} (hname : styleNameWords name = wanted)
    (hlength : 2 ≤ wanted.length) (hwords : ∀ w ∈ wanted, IsWord w) :
    namedColor? t name = (plainNamesake? t wanted).map fun e => (e.1,lower e.2) := by
  have hne : wanted.isEmpty = false := by
    cases wanted
    · contradiction
    · rfl
  have hfind : (t.colorEntries.find? fun e => pathWords e.1 == wanted) =
      plainNamesake? t wanted := by
    refine List.find?_congr fun e he => ?_
    rw [Bool.eq_iff_iff, Bool.and_eq_true, beq_iff_eq, beq_iff_eq, decide_eq_true_eq]
    exact pathWords_eq_iff he hlength hwords
  unfold namedColor?
  rw [hname]
  simp only [hne, hfind]
  rfl

/-- An opaque color with a style that is not found is matched by its channels. -/
lemma matchColor_of_tokenRef {c : Color} {name : String} (hc : c.isOpaque = true)
    (hname : c.tokenRef = some name) :
    matchColor t c = match namedColor? t name with
      | some found => (.token found.1 found.2,.hit)
      | none => matchColor t { c with tokenRef := none } := by
  have hopaque : ({ c with tokenRef := none } : Color).isOpaque = true := hc
  simp only [matchColor, hc, hname, hopaque, Option.bind_some, Option.bind_none, if_true]
  cases namedColor? t name <;> rfl

/-- A color with a style that is named after an entry of the table. Some first entry spells the
words of the name; the color is matched with it, whatever its channels are, if the keys of the entry
are plain. In general the first entry of plain keys is taken, and without one, as always with more
than two words, the name does not count. -/
theorem matchColor_styleName {gs ss : List (List Char)} {value : String}
    (hg : AreWords gs) (hs : AreWords ss)
    (hcolor : ∀ w ∈ gs.head?, lowered w ≠ "color" ∧ lowered w ≠ "colors")
    (hshade : hyphenated ss ≠ "DEFAULT")
    (hentry : (⟨["colors",hyphenated gs,hyphenated ss]⟩,value) ∈ t.colorEntries) :
    ∃ first, namesake? t ((gs ++ ss).map lowered) = some first ∧
      (plainNamesake? t ((gs ++ ss).map lowered) = some first ↔ HasPlainKeys first.1) ∧
      (2 < (gs ++ ss).length → plainNamesake? t ((gs ++ ss).map lowered) = none) ∧
      ∀ c : Color, c.isOpaque = true → c.tokenRef = some (hyphenated gs ++ "/" ++ hyphenated ss) →
        matchColor t c = match plainNamesake? t ((gs ++ ss).map lowered) with
          | some e => (.token e.1 (lower e.2),.hit)
          | none => matchColor t { c with tokenRef := none } := by
  have hspelled : pathSpelling ⟨["colors",hyphenated gs,hyphenated ss]⟩ =
      (gs ++ ss).map lowered := by
    simp only [pathSpelling, hshade, if_false, spelledWords_hyphenated hg,
      spelledWords_hyphenated hs, List.map_append]
  have hsome : (namesake? t ((gs ++ ss).map lowered)).isSome :=
    List.find?_isSome.mpr ⟨_,hentry,by rw [hspelled, BEq.rfl]⟩
  obtain ⟨first,hfirst⟩ := Option.isSome_iff_exists.mp hsome
  refine ⟨first,hfirst,plainNamesake?_eq_some_iff hfirst,
    fun h => plainNamesake?_eq_none (by simpa using h),fun c hc hname => ?_⟩
  have hlength : 2 ≤ ((gs ++ ss).map lowered).length := by
    have hgs := List.length_pos_iff.mpr hg.nonempty
    have hss := List.length_pos_iff.mpr hs.nonempty
    simp only [List.length_map, List.length_append]
    omega
  have hwords : ∀ w ∈ (gs ++ ss).map lowered, IsWord w :=
    List.forall_mem_map.mpr fun w hw => by
      obtain ⟨hne,hall⟩ := (List.mem_append.mp hw).elim (hg.words w) (hs.words w)
      exact isWord_lowered hne hall
  rw [matchColor_of_tokenRef hc hname,
    namedColor?_eq (styleNameWords_hyphenated hg hs hcolor) hlength hwords]
  cases plainNamesake? t ((gs ++ ss).map lowered) <;> rfl

/-- A color that is not quite that of its style. -/
theorem matchColor_blue :
    let t : TokenTable := { TokenTable.empty with
      colors := [("gray",[("500","#3C83F5")]),("Blue",[("500","#3B82F6"),("50","#eff6ff")])] }
    let c : Color := { Color.rgb 0x3c 0x83 0xf5 with tokenRef := some "Blue/500" }
    matchColor t c = (.token ⟨["colors","Blue","500"]⟩ "#3b82f6",.hit) := by
  intro t c
  obtain ⟨first,hfirst,hplain,-,hmatch⟩ :=
    @matchColor_styleName t [['B','l','u','e']] [['5','0','0']] "#3B82F6"
      ⟨by decide,by decide +kernel⟩ ⟨by decide,by decide +kernel⟩ (by decide +kernel)
      (by decide +kernel) (by decide +kernel)
  have hblue : namesake? t ["blue","500"] = some (⟨["colors","Blue","500"]⟩,"#3B82F6") := by
    decide +kernel
  cases hfirst.symm.trans hblue
  rw [hmatch c (by decide +kernel) rfl, hplain.mpr (by decide +kernel)]
  decide +kernel

/-- A style with the very name of an entry is not found if the group of the entry has a hyphen. -/
theorem hyphenated_group_is_not_found :
    let t : TokenTable := { TokenTable.empty with
      colors := [("light-blue",[("500","#03a9f4")])] }
    let c : Color := { Color.rgb 0 0 0 with tokenRef := some "light-blue/500" }
    t.badColor? = none ∧ c.isOpaque = true ∧
      namesake? t ["light","blue","500"] = some (⟨["colors","light-blue","500"]⟩,"#03a9f4") ∧
      matchColor t c = (.raw "#000000",.fallback) := by
  decide +kernel

end

end DesignCompiler.Styling
