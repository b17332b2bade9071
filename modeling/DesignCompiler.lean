import DesignCompiler.Decimal.Binary
import DesignCompiler.Decimal.Form
import DesignCompiler.Decimal.Reading
import DesignCompiler.Decimal.Shortest
import DesignCompiler.Diagnostics
import DesignCompiler.Document.Attributes
import DesignCompiler.Document.Node
import DesignCompiler.Document.Reading
import DesignCompiler.Element.Angle
import DesignCompiler.Element.Basic
import DesignCompiler.Element.Color
import DesignCompiler.Element.Data
import DesignCompiler.Element.Layout
import DesignCompiler.Element.Registry
import DesignCompiler.Element.Style
import DesignCompiler.Fetch
import DesignCompiler.FromDesign.Classification
import DesignCompiler.FromDesign.Layout
import DesignCompiler.FromDesign.Props
import DesignCompiler.FromDesign.Registry
import DesignCompiler.FromDesign.Repetition
import DesignCompiler.FromDesign.Style
import DesignCompiler.FromDesign.Tree
import DesignCompiler.FromDesign.Variants
import DesignCompiler.Geometry
import DesignCompiler.Json.Decoder
import DesignCompiler.Json.Draft
import DesignCompiler.Json.Fault
import DesignCompiler.Json.Number
import DesignCompiler.Json.Reader
import DesignCompiler.Json.Value
import DesignCompiler.Markup.Build
import DesignCompiler.Markup.Escape
import DesignCompiler.Markup.Jsx
import DesignCompiler.Naming.Fresh
import DesignCompiler.Naming.Identifier
import DesignCompiler.Naming.Words
import DesignCompiler.Output.Directory
import DesignCompiler.Output.File
import DesignCompiler.Output.Memory
import DesignCompiler.Output.Store
import DesignCompiler.Project.Conversion
import DesignCompiler.Project.Files
import DesignCompiler.Project.Options
import DesignCompiler.Project.Template
import DesignCompiler.Proofs.Decimal.Alphabet
import DesignCompiler.Proofs.Document.Isolation
import DesignCompiler.Proofs.Document.Sites
import DesignCompiler.Proofs.Document.Slot
import DesignCompiler.Proofs.Document.Tree
import DesignCompiler.Proofs.Element.Identity
import DesignCompiler.Proofs.Element.RawTexts
import DesignCompiler.Proofs.Element.Tree
import DesignCompiler.Proofs.Fetch.Retry
import DesignCompiler.Proofs.FromDesign.Assembly
import DesignCompiler.Proofs.FromDesign.Coverage
import DesignCompiler.Proofs.FromDesign.Detection
import DesignCompiler.Proofs.FromDesign.Heads
import DesignCompiler.Proofs.FromDesign.Identities
import DesignCompiler.Proofs.FromDesign.Instances
import DesignCompiler.Proofs.FromDesign.Looks
import DesignCompiler.Proofs.FromDesign.Marking
import DesignCompiler.Proofs.FromDesign.Overrides
import DesignCompiler.Proofs.FromDesign.Positioning
import DesignCompiler.Proofs.FromDesign.PropNames
import DesignCompiler.Proofs.FromDesign.ProperTree
import DesignCompiler.Proofs.FromDesign.RawTexts
import DesignCompiler.Proofs.FromDesign.Registry
import DesignCompiler.Proofs.FromDesign.Remarks
import DesignCompiler.Proofs.FromDesign.Repetition
import DesignCompiler.Proofs.FromDesign.Reports
import DesignCompiler.Proofs.FromDesign.TextProps
import DesignCompiler.Proofs.FromDesign.VariantNames
import DesignCompiler.Proofs.FromDesign.Variants
import DesignCompiler.Proofs.Json.Agreement
import DesignCompiler.Proofs.Json.Normal
import DesignCompiler.Proofs.Json.Strings
import DesignCompiler.Proofs.Json.Table
import DesignCompiler.Proofs.Markup.AttributeValues
import DesignCompiler.Proofs.Markup.Building
import DesignCompiler.Proofs.Markup.Children
import DesignCompiler.Proofs.Markup.Collections
import DesignCompiler.Proofs.Markup.Content
import DesignCompiler.Proofs.Markup.Counting
import DesignCompiler.Proofs.Markup.Expressions
import DesignCompiler.Proofs.Markup.FirstByKey
import DesignCompiler.Proofs.Markup.Icons
import DesignCompiler.Proofs.Markup.Instances
import DesignCompiler.Proofs.Markup.Lines
import DesignCompiler.Proofs.Markup.OwnStyles
import DesignCompiler.Proofs.Markup.Pieces
import DesignCompiler.Proofs.Markup.Rendering
import DesignCompiler.Proofs.Markup.ScriptStrings
import DesignCompiler.Proofs.Markup.Sights
import DesignCompiler.Proofs.Markup.Tree
import DesignCompiler.Proofs.Markup.Unstyled
import DesignCompiler.Proofs.Naming.CamelCase
import DesignCompiler.Proofs.Naming.ComponentName
import DesignCompiler.Proofs.Naming.Fresh
import DesignCompiler.Proofs.Naming.Identifier
import DesignCompiler.Proofs.Naming.LayerWords
import DesignCompiler.Proofs.Naming.Letters
import DesignCompiler.Proofs.Naming.Numbering
import DesignCompiler.Proofs.Output.Isolation
import DesignCompiler.Proofs.Output.Locations
import DesignCompiler.Proofs.Project.Attributes
import DesignCompiler.Proofs.Project.Blocks
import DesignCompiler.Proofs.Project.Conversion
import DesignCompiler.Proofs.Project.Exports
import DesignCompiler.Proofs.Project.Instances
import DesignCompiler.Proofs.Project.Literals
import DesignCompiler.Proofs.Project.ModuleNames
import DesignCompiler.Proofs.Project.Paths
import DesignCompiler.Proofs.Project.References
import DesignCompiler.Proofs.Project.Success
import DesignCompiler.Proofs.Project.Targets
import DesignCompiler.Proofs.Project.ThemeImport
import DesignCompiler.Proofs.Project.Timestamp
import DesignCompiler.Proofs.Project.Types
import DesignCompiler.Proofs.Script.Literals
import DesignCompiler.Proofs.Script.Reading
import DesignCompiler.Proofs.Script.Styles
import DesignCompiler.Proofs.Styling.Alphabet
import DesignCompiler.Proofs.Styling.ClassNames
import DesignCompiler.Proofs.Styling.Classes
import DesignCompiler.Proofs.Styling.Collector
import DesignCompiler.Proofs.Styling.Counting
import DesignCompiler.Proofs.Styling.CustomProperties
import DesignCompiler.Proofs.Styling.DeclarationTexts
import DesignCompiler.Proofs.Styling.DefinitionNames
import DesignCompiler.Proofs.Styling.Definitions
import DesignCompiler.Proofs.Styling.Hits
import DesignCompiler.Proofs.Styling.Matches
import DesignCompiler.Proofs.Styling.Readable
import DesignCompiler.Proofs.Styling.Reserving
import DesignCompiler.Proofs.Styling.Sources
import DesignCompiler.Proofs.Styling.Spelling
import DesignCompiler.Proofs.Styling.StyleNames
import DesignCompiler.Proofs.Styling.Styler
import DesignCompiler.Proofs.Styling.ThemeObject
import DesignCompiler.Proofs.Styling.Theming
import DesignCompiler.Proofs.Styling.Values
import DesignCompiler.Proofs.Text.Ascii
import DesignCompiler.Proofs.Text.Lines
import DesignCompiler.Proofs.Text.OneLine
import DesignCompiler.Proofs.Text.Pieces
import DesignCompiler.Proofs.Text.Trim
import DesignCompiler.Proofs.Text.Words
import DesignCompiler.Proofs.Tokens.Access
import DesignCompiler.Proofs.Tokens.Accessors
import DesignCompiler.Proofs.Tokens.PropertyName
import DesignCompiler.Proofs.UserBlocks.Filling
import DesignCompiler.Proofs.UserBlocks.FixedPoint
import DesignCompiler.Proofs.UserBlocks.Format
import DesignCompiler.Proofs.UserBlocks.Marker
import DesignCompiler.Proofs.UserBlocks.Matching
import DesignCompiler.Proofs.UserBlocks.Merge
import DesignCompiler.Proofs.UserBlocks.Piece
import DesignCompiler.Proofs.UserBlocks.Plain
import DesignCompiler.Proofs.UserBlocks.Ranges
import DesignCompiler.Proofs.UserBlocks.Regeneration
import DesignCompiler.Proofs.UserBlocks.Scan
import DesignCompiler.Styling.Backend
import DesignCompiler.Styling.Collector
import DesignCompiler.Styling.CssNumber
import DesignCompiler.Styling.CssText
import DesignCompiler.Styling.Declarations
import DesignCompiler.Styling.Styler
import DesignCompiler.Styling.TokenMatch
import DesignCompiler.Styling.TokenSheet
import DesignCompiler.Styling.UtilityClasses
import DesignCompiler.Text.Blank
import DesignCompiler.Text.CaseTable
import DesignCompiler.Text.GlyphTable
import DesignCompiler.Text.Letter
import DesignCompiler.Text.LetterTable
import DesignCompiler.Text.Lines
import DesignCompiler.Text.Quoted
import DesignCompiler.Text.Search
import DesignCompiler.Tokens.Length
import DesignCompiler.Tokens.Path
import DesignCompiler.Tokens.Reading
import DesignCompiler.Tokens.Standard
import DesignCompiler.Tokens.Table
import DesignCompiler.UserBlocks.Marker
import DesignCompiler.UserBlocks.Merge
import DesignCompiler.UserBlocks.Piece
import DesignCompiler.UserBlocks.Scan
import DesignCompiler.UserBlocks.Update
