import DesignCompiler.Naming.Identifier
import DesignCompiler.Styling.Backend
import DesignCompiler.Styling.Collector
import DesignCompiler.Styling.UtilityClasses

/-! Styling of elements in a scheme. The names of definitions are unique within a run and kept for
each element. -/

namespace DesignCompiler.Styling

open Tokens

/-- A scheme with its token table, and whether tokens refer to a theme. Utility classes take no part
in theming. -/
structure Scheme where
  backend : Backend
  themed : Bool
  tokens : TokenTable

namespace Scheme

/-- How tokens are written. -/
def tokenStyle (s : Scheme) : TokenStyle :=
  if s.themed then s.backend.themedStyle else .literal

/-- Whether styles stand in a style sheet beside the component. -/
def hasStyleSheet (s : Scheme) : Bool := s.backend == .cssModules

end Scheme

/-- A style definition ahead of a component. -/
structure StyleDefinition where
  name : String
  source : String
  deriving DecidableEq, Repr

/-- How an element gets its style. -/
inductive StyleUse where
  | plain
  | classes (cs : List String)
  /-- A class of the style sheet beside the component, with its rule. -/
  | moduleClass (name rule : String)
  /-- A component that stands in place of the element's tag. -/
  | styledTag (d : StyleDefinition)
  /-- A style object. -/
  | styleObject (d : StyleDefinition)
  deriving DecidableEq, Repr

namespace StyleUse

def isPlain : StyleUse → Bool
  | plain => true
  | _ => false

/-- The attributes of the element, each with its name and its value. -/
def attributes : StyleUse → List (String × String)
  | plain => []
  | classes cs => [("className", "\"" ++ " ".intercalate cs ++ "\"")]
  | moduleClass name _ => [("className", "\x7bstyles." ++ name ++ "\x7d")]
  | styledTag _ => []
  | styleObject d => [("css", "\x7b" ++ d.name ++ "\x7d")]

/-- The rule for the style sheet. -/
def rule? : StyleUse → Option String
  | moduleClass _ rule => some rule
  | _ => none

/-- The definition ahead of the component. -/
def definition? : StyleUse → Option StyleDefinition
  | styledTag d => some d
  | styleObject d => some d
  | _ => none

/-- The name that stands in place of the element's tag. -/
def tag? : StyleUse → Option String
  | styledTag d => some d.name
  | _ => none

end StyleUse

/-- What a run of styling has come to: the component at hand, the definitions, and what was
counted. -/
structure Progress where
  component : String
  collector : StyleCollector
  tally : Tally
  deriving DecidableEq, Repr

namespace Progress

/-- The beginning of a run. -/
def start : Progress := ⟨"styles", .empty, .zero⟩

/-- Turn to a component. -/
def beginComponent (p : Progress) (component : String) : Progress :=
  { p with component := component }

/-- Forget the definitions and the counts; the component stays. -/
def reset (p : Progress) : Progress := { p with collector := .empty, tally := .zero }

def count (p : Progress) (t : Tally) : Progress := { p with tally := p.tally + t }

end Progress

/-- The class rule of a style sheet. -/
def classRule (s : TokenStyle) (name : String) (ds : List Declaration) : String :=
  "." ++ name ++ " \x7b\n" ++ blockBody s "  " ds ++ "\x7d\n"

/-- The definition of a component for a styled element. -/
def styledSource (s : TokenStyle) (name tag : String) (ds : List Declaration) : String :=
  "const " ++ name ++ " = styled." ++ tag ++ "\x60\n" ++ blockBody s "  " ds ++ "\x60;"

/-- The definition of a style object; with a theme it is a function of the theme. -/
def objectSource (s : TokenStyle) (name : String) (ds : List Declaration) : String :=
  "const " ++ name ++ " = " ++ (if s.isThemed then "(theme: Theme) => " else "") ++ "css\x60\n" ++
    blockBody s "  " ds ++ "\x60;"

/-- The name that is wanted for the style of an element. -/
def wantedName (b : Backend) (h : ElementHead) : String :=
  match b with
  | .styledComponents => "Styled" ++ Naming.componentIdentifier h.name
  | .emotion => Naming.identifier .camel h.name ++ "Styles"
  | .cssModules | .tailwind => Naming.identifier .camel h.name

/-- The source of a definition. -/
def definitionSource (b : Backend) (s : TokenStyle) (name : String) (h : ElementHead)
    (ds : List Declaration) : String :=
  match b with
  | .styledComponents => styledSource s name h.tag ds
  | .emotion => objectSource s name ds
  | .cssModules | .tailwind => classRule s name ds

/-- The use of a definition. -/
def useOf (b : Backend) (name source : String) : StyleUse :=
  match b with
  | .styledComponents => .styledTag ⟨name, source⟩
  | .emotion => .styleObject ⟨name, source⟩
  | .cssModules | .tailwind => .moduleClass name source

/-- Style an element by a definition of its own; an element without declarations needs none. -/
def styleByDefinition (s : Scheme) (p : Progress) (h : ElementHead) : Progress × StyleUse :=
  let (ds, tally) := declarations s.tokens h
  let p := p.count tally
  if ds.isEmpty then (p, .plain)
  else
    let (collector, name) := p.collector.reserve h.id (wantedName s.backend h)
    let source := definitionSource s.backend s.tokenStyle name h ds
    ({ p with collector := collector.insert name source }, useOf s.backend name source)

/-- Style an element by classes; an element without classes needs none. -/
def styleByClasses (s : Scheme) (p : Progress) (h : ElementHead) : Progress × StyleUse :=
  let (cs, tally) := utilityClasses s.tokens h
  (p.count tally, if cs.isEmpty then .plain else .classes cs)

/-- Style an element. -/
def styleElement (s : Scheme) (p : Progress) (h : ElementHead) : Progress × StyleUse :=
  match s.backend with
  | .tailwind => styleByClasses s p h
  | _ => styleByDefinition s p h

/-- The file of the style sheet beside a component. -/
def styleSheetFile (component : String) : String := component ++ ".module.css"

/-- The imports that a component needs for its styles. -/
def styleImports (s : Scheme) (p : Progress) : List String :=
  let imports := match s.backend with
    | .tailwind => []
    | .cssModules => ["import styles from './" ++ styleSheetFile p.component ++ "';"]
    | .styledComponents => ["import styled from 'styled-components';"]
    | .emotion => ["/** @jsxImportSource @emotion/react */", "import \x7b css \x7d from '@emotion/react';"]
  imports ++ if s.themed then s.backend.themeImports else []

/-- The rules of elements, those without a rule being styled first. -/
def collectRules (s : Scheme) (p : Progress) : List ElementHead → Progress × List String
  | [] => (p, [])
  | h :: hs =>
    let p := if (p.collector.nameFor? h.id).isSome then p else (styleByDefinition s p h).1
    let rule := (p.collector.nameFor? h.id).bind p.collector.get?
    let (p, rules) := collectRules s p hs
    (p, rule.toList ++ rules)

/-- The style sheet for the elements of some trees, if there are any rules. -/
def styleSheet (s : Scheme) (p : Progress) (trees : List Element) : Progress × Option String :=
  if s.hasStyleSheet then
    let (p, rules) := collectRules s p (trees.flatMap Element.walk)
    (p, if rules.isEmpty then none else some ("\n".intercalate rules))
  else (p, none)

end DesignCompiler.Styling
