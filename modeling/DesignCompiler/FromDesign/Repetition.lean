import DesignCompiler.Element.Basic
import DesignCompiler.Text.Blank
import DesignCompiler.Text.Letter

/-! Children that repeat. Siblings of one structure are found so that one of them can stand for all
as a template. -/

namespace DesignCompiler.FromDesign

/-- The least number of children that count as a repetition. -/
def minRepeat : Nat := 3

def isCounterSeparator (c : Char) : Bool := Text.isBlank c || c == '_' || c == '-'

/-- A name without the counter of a copy at its end and what sets that off. -/
def baseNameChars (cs : List Char) : List Char :=
  let stem := Text.dropEndWhile Text.isDecimalDigit cs
  if stem.length == cs.length then cs else Text.dropEndWhile isCounterSeparator stem

/-- A name without the counter of a copy at its end: `Card` for `Card 2`. -/
def baseName (name : String) : String := String.ofList (baseNameChars name.toList)

/-- Whether two siblings have one structure: the same kind, and as many children along the same
direction, at least one, or the same name apart from counters. -/
def sameStructure (a b : Element) : Bool :=
  a.head.kind == b.head.kind &&
    ((!a.children.isEmpty && a.children.length == b.children.length &&
        a.head.layout.direction == b.head.layout.direction) ||
      baseName a.head.name == baseName b.head.name)

/-- The numbers, from `start` on, of the elements with the structure of a template. -/
def matchesFrom (template : Element) (start : Nat) : List Element → List Nat
  | [] => []
  | e :: es =>
    if sameStructure template e then start :: matchesFrom template (start + 1) es
    else matchesFrom template (start + 1) es

/-- The first repetition among elements that are numbered from `start` on. -/
def repetitionFrom (start : Nat) : List Element → Option Repeat
  | [] => none
  | e :: es =>
    let members := start :: matchesFrom e (start + 1) es
    if minRepeat ≤ members.length then some ⟨start, members⟩ else repetitionFrom (start + 1) es

/-- The repetition among the children of an element: the first child that has enough matches among
those after it is the template. -/
def detectRepetition (children : List Element) : Option Repeat := repetitionFrom 0 children

/-- Mark an element as repeating. -/
def markRepeat (h : ElementHead) (children : List Element) : ElementHead :=
  match detectRepetition children with
  | some r => { h with remarks := { h.remarks with isRepeating := true, repetition := some r } }
  | none => h

mutual

/-- Mark all repetitions in a tree. -/
def markRepetitions : Element → Element
  | .mk h children =>
    let children := markAllRepetitions children
    .mk (markRepeat h children) children

def markAllRepetitions : List Element → List Element
  | [] => []
  | e :: es => markRepetitions e :: markAllRepetitions es

end

end DesignCompiler.FromDesign
