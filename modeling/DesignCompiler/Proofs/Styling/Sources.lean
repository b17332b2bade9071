import DesignCompiler.Proofs.Styling.Styler

/-! The sources of styles. Around the declarations of an element stands what the backend asks for;
the declarations are its own, one on a line. -/
namespace DesignCompiler.Styling

/-- A declaration as it is written in a style: its property and its value. -/
def Declaration.written (s : TokenStyle) (d : Declaration) : String × String :=
  (d.property,d.value s)

/-- The lines of declarations. -/
def declarationLines (ds : List (String × String)) : String :=
  String.join (ds.map fun d => "  " ++ d.1 ++ ": " ++ d.2 ++ ";\n")

/-- The source of a style: what stands around its declarations depends on the backend, on whether
there is a theme, and on the name and the tag. -/
def sourceText (b : Backend) (themed : Bool) (name tag : String) (ds : List (String × String)) :
    String :=
  match b with
  | .styledComponents =>
    "const " ++ name ++ " = styled." ++ tag ++ "\x60\n" ++ declarationLines ds ++ "\x60;"
  | .emotion =>
    "const " ++ name ++ " = " ++ (if themed then "(theme: Theme) => " else "") ++ "css\x60\n" ++
      declarationLines ds ++ "\x60;"
  | .cssModules | .tailwind => "." ++ name ++ " \x7b\n" ++ declarationLines ds ++ "\x7d\n"

namespace Scheme

/-- The declarations of an element as they are written in a scheme. -/
def ownDeclarations (s : Scheme) (h : ElementHead) : List (String × String) :=
  (declarations s.tokens h).1.map (·.written s.tokenStyle)

/-- The source of an element's style under a name, which has its own declarations. -/
def ownSource (s : Scheme) (h : ElementHead) (name : String) : String :=
  sourceText s.backend s.themed name h.tag (s.ownDeclarations h)

theorem source_eq_ownSource (s : Scheme) (h : ElementHead) (name : String) :
    s.source h name = s.ownSource h name := by
  obtain ⟨b,themed,t⟩ := s
  cases themed <;> cases b <;>
    simp [source, ownSource, ownDeclarations, definitionSource, sourceText, styledSource,
      objectSource, classRule, blockBody, declarationLines, Declaration.written, tokenStyle,
      TokenStyle.isThemed, Backend.themedStyle, Function.comp_def]

end Scheme

end DesignCompiler.Styling
