import DesignCompiler.Tokens.Path
import Mathlib.Data.List.TakeWhile
import Mathlib.Tactic.Lemma

/-! Property accesses as they are written: each begins with a character that no identifier holds, so
that a chain of them can be taken apart. -/
namespace DesignCompiler.Tokens

/-! ## Characters -/

lemma all_of_isScriptIdentifier {cs : List Char} (h : isScriptIdentifier cs = true) :
    ∀ c ∈ cs, isIdentifierChar c = true := by
  cases cs with
  | nil => nofun
  | cons c cs =>
    rw [isScriptIdentifier, Bool.and_eq_true] at h
    refine List.forall_mem_cons.mpr ⟨?_,fun c hc => List.all_eq_true.mp h.2 c hc⟩
    have hstart := h.1
    unfold isIdentifierStart at hstart
    unfold isIdentifierChar Char.isAlphanum
    simp only [Bool.or_eq_true] at hstart ⊢
    exact hstart.imp_left (·.imp_left .inl)

lemma takeWhile_append_of_head {p : Char → Bool} {cs ds : List Char} (h : ∀ c ∈ cs, p c = true)
    (hds : ∀ c ∈ ds.head?, p c = false) :
    (cs ++ ds).takeWhile p = cs ∧ (cs ++ ds).dropWhile p = ds := by
  rw [List.takeWhile_append_of_pos h, List.dropWhile_append_of_pos h]
  cases ds with
  | nil => simp
  | cons d ds =>
    have hd := hds d rfl
    simp [hd]

/-! ## Accesses -/

/-- The access to a key, by what the key is. -/
inductive AccessForm (key : String) : List Char → Prop
  | name : isScriptIdentifier key.toList = true → AccessForm key ('.' :: key.toList)
  | number : isScriptIdentifier key.toList = false → key.toList.all Char.isDigit = true →
      AccessForm key ('[' :: (key.toList ++ [']']))
  | text : isScriptIdentifier key.toList = false → key.toList.all Char.isDigit = false →
      AccessForm key ('[' :: '\'' :: (key.toList ++ ['\'',']']))

lemma accessForm_access (key : String) : AccessForm key (TokenPath.access key).toList := by
  unfold TokenPath.access
  split
  · next hname => simpa using AccessForm.name hname
  · next hname =>
    rw [Bool.not_eq_true] at hname
    split
    · next hdigits => simpa using AccessForm.number hname hdigits
    · next hdigits =>
      rw [Bool.not_eq_true] at hdigits
      simpa using AccessForm.text hname hdigits

/-- No access begins with a character of an identifier. -/
lemma head?_access (key : String) :
    ∃ c cs, (TokenPath.access key).toList = c :: cs ∧ isIdentifierChar c = false := by
  have hform := accessForm_access key
  generalize (TokenPath.access key).toList = cs at hform
  cases hform with
  | name | number | text => exact ⟨_,_,rfl,by decide⟩

/-! ## Chains -/

/-- A chain of accesses. -/
def accesses (keys : List String) : List Char := (String.join (keys.map TokenPath.access)).toList

lemma accesses_cons (key : String) (keys : List String) :
    accesses (key :: keys) = (TokenPath.access key).toList ++ accesses keys := by
  simp [accesses]

lemma head?_accesses (keys : List String) :
    ∀ c ∈ (accesses keys).head?, isIdentifierChar c = false := by
  cases keys with
  | nil => simp [accesses]
  | cons key keys =>
    obtain ⟨c,cs,hc,hfirst⟩ := head?_access key
    rw [accesses_cons, hc]
    simpa using hfirst

lemma toList_accessor (p : TokenPath) (root : String) :
    (p.accessor root).toList = root.toList ++ accesses p.segments := by
  rw [TokenPath.accessor, String.toList_append, accesses]

end DesignCompiler.Tokens
