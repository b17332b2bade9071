import DesignCompiler.Proofs.Markup.Lines
import DesignCompiler.Proofs.Markup.Tree

/-! The text of markup in pieces. Some are the parts of markup: what it opens, refers to or says.
Between them stands what is the same for all markup of a kind. -/
namespace DesignCompiler.Markup
open Styling

/-! ## Parts in text -/

/-- The tag of an element: a styled component stands in place of the element's own. -/
def Opening.tagText (o : Opening) : String :=
  match o.style with
  | .styledTag d => d.name
  | .plain | .classes _ | .moduleClass _ _ | .styleObject _ => o.tag

/-- The attribute by which an element refers to its style. -/
def styleText : StyleUse → String
  | .plain => ""
  | .classes cs => " className=\"" ++ " ".intercalate cs ++ "\""
  | .moduleClass name _ => " className=\x7bstyles." ++ name ++ "\x7d"
  | .styledTag _ => ""
  | .styleObject d => " css=\x7b" ++ d.name ++ "\x7d"

/-- A part of markup as it is written. An opening is written without its brackets. -/
def Jsx.Part.text : Jsx.Part → String
  | .comment remark => "\x7b/* " ++ commentText remark ++ " */\x7d"
  | .icon i => i.ident
  | .component tag => tag
  | .opening o => o.tagText ++ keyText o.keyed ++ styleText o.style ++
      String.join (o.texts.map fun (name,value) => " " ++ name ++ "=" ++ attributeValue value)
  | .content (.literal s) => escapeText s
  | .content (.prop name) => "\x7b" ++ name ++ "\x7d"
  | .collection c => c.name

lemma Opening.name_eq_tagText (o : Opening) : o.name = o.tagText := by
  obtain ⟨tag,style,keyed,texts⟩ := o
  cases style <;> rfl

/-- An attribute whose value stands between delimiters, of which the first is written with what
precedes the value. -/
lemma join_attributeText (opening : String) {name start : String}
    (h : opening = " " ++ name ++ "=" ++ start) (value stop : String) :
    String.join [attributeText name (start ++ value ++ stop)] = opening ++ value ++ stop := by
  rw [h]
  simp [attributeText, String.append_assoc]

lemma join_attributes (u : StyleUse) :
    String.join (u.attributes.map fun (name,value) => attributeText name value) = styleText u := by
  cases u with
  | plain | styledTag => rfl
  | classes cs => exact join_attributeText " className=\"" (by decide) _ "\""
  | moduleClass name rule =>
    exact join_attributeText " className=\x7bstyles." (by decide) name "\x7d"
  | styleObject d => exact join_attributeText " css=\x7b" (by decide) d.name "\x7d"

lemma Opening.inner_eq_text (o : Opening) : o.inner = (Jsx.Part.opening o).text := by
  rw [inner, name_eq_tagText, join_attributes]
  rfl

lemma TextContent.text_eq_text (c : TextContent) : c.text = (Jsx.Part.content c).text := by
  cases c <;> rfl

/-! ## Pieces -/

/-- What the lines of markup are put together from. -/
inductive Piece where
  | verbatim (s : String)
  | part (p : Jsx.Part)
  /-- The tag of an element at its end. -/
  | closing (o : Opening)
  deriving DecidableEq, Repr

namespace Piece

def text : Piece → String
  | verbatim s => s
  | part p => p.text
  | closing o => o.tagText

/-- The part of markup that a piece is. -/
def part? : Piece → Option Jsx.Part
  | part p => some p
  | verbatim _ | closing _ => none

/-- A line that is put together from pieces. -/
def line (ps : List Piece) : String := String.join (ps.map text)

@[simp] lemma line_nil : line [] = "" := rfl

@[simp] lemma line_cons (p : Piece) (ps : List Piece) : line (p :: ps) = p.text ++ line ps := by
  simp [line]

@[simp] lemma line_append (ps qs : List Piece) : line (ps ++ qs) = line ps ++ line qs := by
  simp [line]

lemma line_flatten (ls : List (List Piece)) : line ls.flatten = String.join (ls.map line) := by
  induction ls with
  | nil => rfl
  | cons l ls ih => rw [List.flatten_cons, line_append, ih, List.map_cons, String.join_cons]

/-- The parts of markup among the pieces of lines. -/
def partsOf (ls : List (List Piece)) : List Jsx.Part := ls.flatten.filterMap part?

@[simp] lemma partsOf_nil : partsOf [] = [] := rfl

@[simp] lemma partsOf_cons (l : List Piece) (ls : List (List Piece)) :
    partsOf (l :: ls) = l.filterMap part? ++ partsOf ls := by
  rw [partsOf, List.flatten_cons, List.filterMap_append, partsOf]

@[simp] lemma partsOf_append (ls ls' : List (List Piece)) :
    partsOf (ls ++ ls') = partsOf ls ++ partsOf ls' := by
  rw [partsOf, List.flatten_append, List.filterMap_append, partsOf, partsOf]

lemma partsOf_flatMap {α : Type} (f : α → List (List Piece)) (as : List α) :
    partsOf (as.flatMap f) = as.flatMap fun a => partsOf (f a) := by
  induction as with
  | nil => rfl
  | cons a as ih => rw [List.flatMap_cons, partsOf_append, ih, List.flatMap_cons]

end Piece

namespace Jsx

mutual

/-- The lines of markup in pieces. -/
def pieces (unit : String) (depth : ℕ) : Jsx → List (List Piece)
  | comment remark => [[.verbatim (indentation unit depth), .part (.comment remark)]]
  | icon i keyed =>
    [[.verbatim (indentation unit depth ++ "<"), .part (.icon i), .verbatim (keyText keyed),
      .verbatim " />"]]
  | component tag overrides keyed =>
    [[.verbatim (indentation unit depth ++ "<"), .part (.component tag), .verbatim (keyText keyed),
      .verbatim (String.join (overrides.map fun (name,value) => overrideText name value)),
      .verbatim " />"]]
  | void o =>
    [[.verbatim (indentation unit depth ++ "<"), .part (.opening o), .verbatim " />"]]
  | text o content =>
    [[.verbatim (indentation unit depth ++ "<"), .part (.opening o), .verbatim ">",
      .part (.content content), .verbatim "</", .closing o, .verbatim ">"]]
  | inlined o child =>
    [[.verbatim (indentation unit depth ++ "<"), .part (.opening o), .verbatim ">"] ++
      (child.pieces unit 0).flatten ++ [.verbatim "</", .closing o, .verbatim ">"]]
  | block o children =>
    [[.verbatim (indentation unit depth ++ "<"), .part (.opening o), .verbatim ">"]] ++
      allPieces unit (depth+1) children ++
      [[.verbatim (indentation unit depth ++ "</"), .closing o, .verbatim ">"]]
  | each c template =>
    [[.verbatim (indentation unit depth ++ "\x7b"), .part (.collection c),
      .verbatim ".map((item, index) => ("]] ++ template.pieces unit (depth+1) ++
      [[.verbatim (indentation unit depth ++ "))\x7d")]]

def allPieces (unit : String) (depth : ℕ) : List Jsx → List (List Piece)
  | [] => []
  | j :: js => j.pieces unit depth ++ allPieces unit depth js

end

section
variable (unit : String)

lemma allPieces_eq_flatMap (depth : ℕ) (js : List Jsx) :
    allPieces unit depth js = js.flatMap (·.pieces unit depth) := by
  induction js with
  | nil => rfl
  | cons j js ih => rw [allPieces, ih, List.flatMap_cons]

/-- The lines of markup are put together from the pieces. -/
theorem lines_eq_pieces (j : Jsx) (depth : ℕ) :
    j.lines unit depth = (j.pieces unit depth).map Piece.line := by
  induction j generalizing depth with
  | comment | icon | component =>
    simp [lines, pieces, Piece.text, Part.text, commentMarkup, String.append_assoc]
  | void | text =>
    simp [lines, pieces, Piece.text, Opening.inner_eq_text, Opening.name_eq_tagText,
      TextContent.text_eq_text, String.append_assoc]
  | inlined o child ih =>
    simp [lines, pieces, ih 0, Piece.text, Opening.inner_eq_text, Opening.name_eq_tagText,
      Piece.line_flatten, String.append_assoc]
  | block o children ih =>
    have hchildren := List.flatMap_congr fun j hj => ih j hj (depth+1)
    simp [lines, pieces, allLines_eq_flatMap, allPieces_eq_flatMap, List.map_flatMap, hchildren,
      Piece.text, Opening.inner_eq_text, Opening.name_eq_tagText, String.append_assoc]
  | each c template ih =>
    simp [lines, pieces, ih, Piece.text, Part.text, String.append_assoc]

/-- The parts among the pieces are those of all markup inside it, in order. -/
theorem partsOf_pieces (j : Jsx) (depth : ℕ) :
    Piece.partsOf (j.pieces unit depth) = j.subtrees.flatMap ownParts := by
  induction j generalizing depth with
  | comment | icon | component | void | text => rfl
  | inlined o child ih =>
    have hchild : (child.pieces unit 0).flatten.filterMap Piece.part? = _ := ih 0
    rw [pieces, subtrees, List.flatMap_cons, ← hchild]
    simp [List.filterMap_cons, List.filterMap_append, -List.filterMap_flatten, Piece.part?,
      ownParts]
  | block o children ih =>
    have hchildren := List.flatMap_congr fun j hj => ih j hj (depth+1)
    simp [pieces, subtrees, allPieces_eq_flatMap, allSubtrees_eq_flatMap, List.flatMap_assoc,
      Piece.partsOf_flatMap, hchildren, List.filterMap_cons, Piece.part?, ownParts]
  | each c template ih => simp [pieces, subtrees, ih, List.filterMap_cons, Piece.part?, ownParts]

end

end Jsx

/-! ## Components -/

/-- The lines of the text of markup, in pieces. -/
def pieces (m : DesignCompiler.Markup) (unit : String) (depth : ℕ) : List (List Piece) :=
  m.root.pieces unit depth

/-- What is written in the markup of a component: the parts of all markup inside it, in order. -/
def written (m : DesignCompiler.Markup) : List Jsx.Part := m.root.subtrees.flatMap Jsx.ownParts

/-- Markup is written in pieces: its text is put together from them, and their parts are all that is
written in it. -/
structure IsWritten (m : DesignCompiler.Markup) : Prop where
  text : ∀ unit depth,
    m.text unit depth = "\n".intercalate ((m.pieces unit depth).map Piece.line)
  parts : ∀ unit depth, Piece.partsOf (m.pieces unit depth) = m.written

theorem isWritten (m : DesignCompiler.Markup) : m.IsWritten where
  text unit depth := by
    rw [text, Jsx.lines_eq_pieces]
    rfl
  parts unit depth := Jsx.partsOf_pieces unit m.root depth

end DesignCompiler.Markup
