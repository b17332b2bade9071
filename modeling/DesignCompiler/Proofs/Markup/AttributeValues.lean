import DesignCompiler.Markup.Escape
import DesignCompiler.Proofs.Json.Strings
import Mathlib.Tactic.Lemma

/-! Attribute values are read back. The first character tells whether a value is the text itself in
quotes or a string literal in braces. -/
namespace DesignCompiler.Markup

/-! ## Reading -/

/-- The characters that do not stand in quotes as they are. -/
def attributeMarks : List Char := ['"','\\','\n','\x7b','\x7d']

/-- An attribute value and its text. -/
inductive AttributeOf : String → String → Prop
  | quoted {v : String} : (∀ c ∈ v.toList, c ∉ attributeMarks) → AttributeOf ("\"" ++ v ++ "\"") v
  | braced {literal v : String} : Json.literalText? literal = some v →
      (∀ c ∈ literal.toList, 32 ≤ c.toNat) → AttributeOf ("\x7b" ++ literal ++ "\x7d") v

/-- What stands ahead of a character that ends a text. -/
def inside? (close : Char) (cs : List Char) : Option String :=
  if cs.getLast? = some close then some (String.ofList cs.dropLast) else none

/-- The text of an attribute value, which is read in the way that the first character tells. -/
def attributeText? (s : String) : Option String :=
  match s.toList with
  | '"' :: cs => (inside? '"' cs).filter fun v => v.toList.all (· ∉ attributeMarks)
  | '\x7b' :: cs =>
    ((inside? '\x7d' cs).filter fun l => l.toList.all (32 ≤ ·.toNat)).bind Json.literalText?
  | _ => none

lemma inside?_eq_some_iff {close : Char} {cs : List Char} {v : String} :
    inside? close cs = some v ↔ cs = v.toList ++ [close] := by
  unfold inside?
  constructor
  · intro h
    split_ifs at h with hlast
    obtain ⟨init,rfl⟩ := List.getLast?_eq_some_iff.mp hlast
    cases h
    simp
  · rintro rfl
    simp

/-- The reader reads attribute values only, and it reads all of them. -/
theorem attributeText?_eq_some_iff {s v : String} :
    attributeText? s = some v ↔ AttributeOf s v := by
  constructor
  · intro h
    unfold attributeText? at h
    split at h
    · next cs hcs =>
      obtain ⟨hinside,hall⟩ := Option.filter_eq_some_iff.mp h
      have hs : s = "\"" ++ v ++ "\"" := by
        rw [← String.toList_inj, hcs, inside?_eq_some_iff.mp hinside]
        simp
      exact hs ▸ .quoted (by simpa using hall)
    · next cs hcs =>
      obtain ⟨literal,hliteral,hread⟩ := Option.bind_eq_some_iff.mp h
      obtain ⟨hinside,hall⟩ := Option.filter_eq_some_iff.mp hliteral
      have hs : s = "\x7b" ++ literal ++ "\x7d" := by
        rw [← String.toList_inj, hcs, inside?_eq_some_iff.mp hinside]
        simp
      exact hs ▸ .braced hread (by simpa using hall)
    · cases h
  · intro h
    cases h with
    | quoted hplain =>
      have hchars : ("\"" ++ v ++ "\"").toList = '"' :: (v.toList ++ ['"']) := by simp
      simp only [attributeText?, hchars, inside?_eq_some_iff.mpr rfl]
      exact Option.filter_eq_some_iff.mpr ⟨rfl,by simpa using hplain⟩
    | @braced literal _ hread hlow =>
      have hchars : ("\x7b" ++ literal ++ "\x7d").toList =
          '\x7b' :: (literal.toList ++ ['\x7d']) := by simp
      simp only [attributeText?, hchars, inside?_eq_some_iff.mpr rfl]
      exact Option.bind_eq_some_iff.mpr
        ⟨literal,Option.filter_eq_some_iff.mpr ⟨rfl,by simpa using hlow⟩,hread⟩

/-! ## Writing -/

lemma needsExpression_iff {c : Char} : needsExpression c = true ↔ c ∈ attributeMarks := by
  simp [needsExpression, attributeMarks, or_assoc]

lemma attributeOf_attributeValue (v : String) : AttributeOf (attributeValue v) v := by
  unfold attributeValue attributeChars
  split_ifs with hmarks
  · have hs : String.ofList ('\x7b' :: Json.quoteChars v.toList ++ ['\x7d']) =
        "\x7b" ++ Json.quote v ++ "\x7d" := by
      rw [← String.toList_inj]
      simp [Json.quote]
    exact hs ▸ .braced (Json.literalText?_quote v) (Json.le_of_mem_quote v)
  · have hs : String.ofList ('"' :: v.toList ++ ['"']) = "\"" ++ v ++ "\"" := by
      rw [← String.toList_inj]
      simp
    refine hs ▸ .quoted fun c hc hmark => hmarks ?_
    exact List.any_eq_true.mpr ⟨c,hc,needsExpression_iff.mpr hmark⟩

/-- The value that is written for a text is the text in quotes if that can stand there as it is, or
a string literal in braces that decodes to the text and holds no control character. It is read back
as the text, so that no other text has the same value. -/
theorem attribute_value_reads_back (v : String) :
    AttributeOf (attributeValue v) v ∧ attributeText? (attributeValue v) = some v ∧
      ∀ w, attributeValue w = attributeValue v → w = v := by
  have hread : ∀ u, attributeText? (attributeValue u) = some u := fun u =>
    attributeText?_eq_some_iff.mpr (attributeOf_attributeValue u)
  refine ⟨attributeOf_attributeValue v,hread v,fun w h => ?_⟩
  exact Option.some.inj ((hread w).symm.trans (h ▸ hread v))

end DesignCompiler.Markup
