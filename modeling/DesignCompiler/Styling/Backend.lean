import DesignCompiler.Styling.Declarations

/-! The styling schemes between which a project chooses. -/

namespace DesignCompiler.Styling

/-- A styling scheme. -/
inductive Backend where
  /-- Utility classes. -/
  | tailwind
  /-- A style sheet beside the component, with a class for each element. -/
  | cssModules
  /-- A component for each styled element. -/
  | styledComponents
  /-- A style object for each styled element. -/
  | emotion
  deriving DecidableEq, Repr

namespace Backend

def name : Backend → String
  | tailwind => "tailwind"
  | cssModules => "css-modules"
  | styledComponents => "styled-components"
  | emotion => "emotion"

def all : List Backend := [tailwind, cssModules, styledComponents, emotion]

/-- The scheme that is used when none is chosen. -/
def standard : Backend := tailwind

def ofName? (s : String) : Option Backend := all.find? (·.name == s)

/-- What is said about a name that no scheme has. -/
def unknownMessage (s : String) : String := "unknown style backend '" ++ s ++ "'"

/-- How tokens are written when the project has a theme. -/
def themedStyle : Backend → TokenStyle
  | tailwind => .literal
  | cssModules => .cssVar
  | styledComponents => .themeProps
  | emotion => .themeScope

/-- Imports that a component needs for its theme. -/
def themeImports : Backend → List String
  | cssModules => ["import '../theme/tokens.css';"]
  | emotion => ["import type \x7b Theme \x7d from '../theme';"]
  | tailwind | styledComponents => []

end Backend

end DesignCompiler.Styling
