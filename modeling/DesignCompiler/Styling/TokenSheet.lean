import DesignCompiler.Styling.CssNumber
import DesignCompiler.Tokens.Table
import DesignCompiler.Text.Lines

/-! The style sheet that declares tokens as custom properties. -/

namespace DesignCompiler.Styling

open Tokens

/-- The name under which a token is declared; closing parentheses at its end are left out. -/
def declaredName (p : TokenPath) : String :=
  String.ofList (Text.dropEndWhile (· == ')') p.propertyName.toList)

/-- The tokens that are declared, with their values: colors, spacing, radii, shadows and the sizes
of text styles. -/
def declaredTokens (t : TokenTable) : List (TokenPath × String) :=
  t.colorEntries ++
  (t.spacing.map fun (key, x) => (⟨["spacing", key]⟩, px x)) ++
  (t.borderRadius.map fun (key, x) => (⟨["borderRadius", key]⟩, px x)) ++
  (t.shadows.map fun (key, css) => (⟨["shadows", key]⟩, css)) ++
  (t.typography.map fun (key, style) => (⟨["typography", key]⟩, px style.fontSize))

/-- The style sheet of a table. -/
def tokenSheet (t : TokenTable) : String :=
  Text.ofLines ([":root \x7b"] ++
    (declaredTokens t).map (fun (path, value) => "  " ++ declaredName path ++ ": " ++ value ++ ";")
    ++ ["\x7d", ""])

end DesignCompiler.Styling
