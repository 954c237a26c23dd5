import Typescribe.CommandLine
import Typescribe.Declaration
import Typescribe.Dictionary
import Typescribe.Documentation
import Typescribe.Documentation.Comment
import Typescribe.Documentation.Summary
import Typescribe.Error
import Typescribe.FileSystem
import Typescribe.FileTree
import Typescribe.Fragment
import Typescribe.Job
import Typescribe.Json.Number
import Typescribe.Json.Reader
import Typescribe.Json.Record
import Typescribe.Json.Token
import Typescribe.Json.Value
import Typescribe.Json.Writer
import Typescribe.Main
import Typescribe.Output
import Typescribe.Rendering
import Typescribe.Settings
import Typescribe.Settings.Yaml
import Typescribe.Template
import Typescribe.Template.Folder
import Typescribe.Text.Alphanumeric
import Typescribe.Text.Blank
import Typescribe.Text.CaseMap
import Typescribe.Text.CharTable
import Typescribe.Text.LetterCase
import Typescribe.Text.Lines
import Typescribe.Text.Numeral
import Typescribe.Text.Split
import Typescribe.Text.Words
import Typescribe.TypeExpr
import Typescribe.TypeExpr.Document
import Typescribe.TypeExpr.Stored
import Typescribe.TypeModel
import Typescribe.TypeModel.Document
import Typescribe.TypeName
import Typescribe.Xml.CharacterData
import Typescribe.Xml.Chunk
import Typescribe.Xml.Document
import Typescribe.Xml.Name
import Typescribe.Xml.Namespace
import Typescribe.Xml.Tag
import Typescribe.Xml.Tree
import Typescribe.Yaml.Block
import Typescribe.Yaml.Cursor
import Typescribe.Yaml.Mapping
import Typescribe.Yaml.Node
import Typescribe.Yaml.Plain
import Typescribe.Yaml.Quoted
import Typescribe.Yaml.Scalar
import Typescribe.Yaml.Tag
import Typescribe.Yaml.Writer
import Typescribe.Proofs.Blanks
import Typescribe.Proofs.Dictionary
import Typescribe.Proofs.TypeEncoding
import Typescribe.Proofs.Registry
import Typescribe.Proofs.Selection
import Typescribe.Proofs.TypeNames
import Typescribe.Proofs.DeclaredNames
import Typescribe.Proofs.RenderingStructure
import Typescribe.Proofs.Dependencies
import Typescribe.Proofs.Comments
import Typescribe.Proofs.DocumentationInsertion
import Typescribe.Proofs.FileNames
import Typescribe.Proofs.FileTree
import Typescribe.Proofs.JsonText
import Typescribe.Proofs.OutputFiles
import Typescribe.Proofs.UnresolvedTypes
import Typescribe.Proofs.StoredFragments
import Typescribe.Proofs.LastWriter
import Typescribe.Proofs.JobStages
import Typescribe.Proofs.BatchFailures
import Typescribe.Proofs.MentionedNames
import Typescribe.Proofs.FaultLocations
import Typescribe.Proofs.TemplateLayout
import Typescribe.Proofs.Parentheses
import Typescribe.Proofs.EmptyNames
import Typescribe.Proofs.CommentLines
import Typescribe.Proofs.CanonicalNames
import Typescribe.Proofs.CrossReferences
import Typescribe.Proofs.TemplateFiles
import Typescribe.Proofs.YamlScalars
import Typescribe.Proofs.StoredSettings
import Typescribe.Proofs.TidySummaries
