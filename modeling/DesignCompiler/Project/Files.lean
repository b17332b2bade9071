import DesignCompiler.Markup.Build
import DesignCompiler.Output.File
import DesignCompiler.Project.Template
import DesignCompiler.Styling.TokenSheet
import DesignCompiler.UserBlocks.Marker

/-! The files of a component and of a project. -/

namespace DesignCompiler.Project

open Styling Markup Output Tokens

namespace ConvertOptions

/-- The first line of every script, which marks it as generated. -/
def header (o : ConvertOptions) : String :=
  "// @generated by canopy" ++
    (match o.timestamp with
      | some t => " at " ++ t
      | none => "") ++
    ". Edits outside user blocks are overwritten."

/-- The path of a file in the folder of components. -/
def componentPath (o : ConvertOptions) (file : String) : String :=
  withoutFinalSlashes o.componentsDir ++ "/" ++ file

/-- The folder of the theme, beside the folder of components. -/
def themeDir (o : ConvertOptions) : String :=
  let dir := Text.dropEndWhile isSlash o.componentsDir.toList
  if dir.contains '/' then
    String.ofList (Text.dropEndWhile (!isSlash ·) dir) ++ "theme"
  else "theme"

end ConvertOptions

/-- The first line of every style sheet. -/
def sheetHeader : String := "/* @generated by canopy */\n"

/-- The default of a prop as a script expression. -/
def defaultText (p : PropDef) : Option String :=
  match p.type with
  | .node => none
  | .boolean => p.default
  | .string => p.default.map scriptString
  | .enum => (p.default.orElse fun _ => p.values.head?).map scriptString

/-- A prop among the parameters of a component. -/
def paramText (p : PropDef) : String :=
  match defaultText p with
  | some value => p.name ++ " = " ++ value
  | none => p.name

/-- The type of a prop. -/
def typeText (p : PropDef) : String :=
  match p.type with
  | .string => "string"
  | .boolean => "boolean"
  | .node => "React.ReactNode"
  | .enum => " | ".intercalate (p.values.map scriptString)

/-- A collection among the parameters of a component. -/
def collectionParam (c : Collection) : String :=
  c.name ++ " = Array.from(\x7b length: " ++ toString c.count ++ " \x7d)"

/-- The parameters of a component: its props with their defaults and its collections. -/
def paramsText (o : ConvertOptions) (name : String) (props : List PropDef) (m : Markup) :
    String :=
  let fields := props.map paramText ++ m.collections.map collectionParam
  if fields.isEmpty then ""
  else
    "\x7b " ++ ", ".intercalate fields ++ " \x7d" ++
      if o.typescript then ": " ++ name ++ "Props" else ""

/-- A line that tells the compiler how to treat the file; it stands before all imports. -/
def isPragma (line : String) : Bool := "/**".toList.isPrefixOf line.toList

/-- The lines of imports of a component. -/
def importLines (o : ConvertOptions) (name : String) (m : Markup)
    (styleImports : List String) : List String :=
  styleImports.filter isPragma ++ ["import React from 'react';"] ++
  styleImports.filter (!isPragma ·) ++
  m.components.map (fun c => "import \x7b " ++ c ++ " \x7d from './" ++ c ++ "';") ++
  m.icons.map (fun i => "import " ++ i.ident ++ " from '" ++ i.url ++ "';") ++
  if o.typescript then ["import type \x7b " ++ name ++ "Props \x7d from './" ++ name ++ ".types';"]
  else []

/-- The style definitions of a component, set off by blank lines. -/
def definitionsText (ds : List StyleDefinition) : String :=
  if ds.isEmpty then "\n" else "\n" ++ "\n\n".intercalate (ds.map (·.source)) ++ "\n\n"

/-- The remarks about a component as comments. -/
def notesText (notes : List String) : String :=
  String.join (notes.map fun n => "  // " ++ n ++ "\n")

/-- How deep the markup stands in the file of a component. -/
def markupDepth : Nat := 2

/-- The fields of a component's file. -/
def componentFields (o : ConvertOptions) (name : String) (props : List PropDef)
    (m : Markup) (depth : Nat) (styleImports : List String) : List (String × String) := [
  ("header", o.header),
  ("imports", "\n".intercalate (importLines o name m styleImports)),
  ("user_imports", UserBlocks.emptyBlock "imports" ""),
  ("definitions", definitionsText m.definitions),
  ("name", name),
  ("params", paramsText o name props m),
  ("user_logic", UserBlocks.emptyBlock "logic" "  "),
  ("notes", notesText m.notes),
  ("jsx", m.text o.indentUnit depth)]

/-- A template filled in with fields; one without a value is left out. -/
def fillIn (t : Template) (fields : List (String × String)) : String :=
  (t.render? fun name => (fields.find? (·.1 == name)).map (·.2)).getD ""

/-- The file of a component. -/
def componentFile (o : ConvertOptions) (name : String) (props : List PropDef) (m : Markup)
    (depth : Nat) (styleImports : List String) : GeneratedFile :=
  ⟨o.componentPath (name ++ "." ++ o.componentExt),
    fillIn Template.component (componentFields o name props m depth styleImports), .component⟩

/-- The fields of the props of a component. -/
def typeFields (props : List PropDef) (m : Markup) : List String :=
  props.map (fun p => "  " ++ p.name ++ "?: " ++ typeText p ++ ";") ++
  m.collections.map fun c => "  " ++ c.name ++ "?: unknown[];"

/-- The file of a component's types, if types are written. -/
def typesFile (o : ConvertOptions) (name : String) (props : List PropDef) (m : Markup) :
    Option GeneratedFile :=
  if o.typescript then
    let fields := typeFields props m
    let body := if fields.isEmpty then "\x7b\x7d"
      else "\x7b\n" ++ "\n".intercalate fields ++ "\n\x7d"
    let reactImport := if props.any (·.type == .node)
      then "import type * as React from 'react';\n\n" else ""
    some ⟨o.componentPath (name ++ ".types.ts"),
      fillIn Template.types [("header", o.header), ("react_import", reactImport), ("name", name),
        ("body", body)], .types⟩
  else none

/-- The style sheet beside a component. -/
def styleSheetOf (o : ConvertOptions) (name css : String) : GeneratedFile :=
  ⟨o.componentPath (styleSheetFile name), sheetHeader ++ css, .stylesheet⟩

/-- The exports of a component. -/
def exportText (o : ConvertOptions) (name : String) : String :=
  "export \x7b " ++ name ++ " \x7d from './" ++ name ++ "';\n" ++
    if o.typescript then
      "export type \x7b " ++ name ++ "Props \x7d from './" ++ name ++ ".types';\n"
    else ""

/-- The file that exports all components. -/
def indexFile (o : ConvertOptions) (components : List String) : GeneratedFile :=
  ⟨o.componentPath ("index." ++ o.moduleExt),
    fillIn Template.index [("header", o.header),
      ("exports", String.join (components.map (exportText o)))], .index⟩

/-- The script that holds the tokens as a theme. -/
def themeScript (o : ConvertOptions) (t : TokenTable) : String :=
  o.header ++ "\nexport const theme = " ++ t.toJson.indented "" ++ ";\n" ++
    if o.typescript then "\nexport type Theme = typeof theme;\n" else ""

/-- The file of the theme, if the project has one and its scheme refers to it. -/
def themeFile (o : ConvertOptions) (t : TokenTable) : Option GeneratedFile :=
  if o.themed then
    match o.backend with
    | .tailwind => none
    | .cssModules => some ⟨o.themeDir ++ "/tokens.css", sheetHeader ++ tokenSheet t, .theme⟩
    | .styledComponents | .emotion =>
      some ⟨o.themeDir ++ "/index." ++ o.moduleExt, themeScript o t, .theme⟩
  else none

end DesignCompiler.Project
