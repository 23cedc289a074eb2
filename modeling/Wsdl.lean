import Wsdl.Catalog.Basic
import Wsdl.Catalog.Files
import Wsdl.Catalog.Trail
import Wsdl.Check.Assertion
import Wsdl.Check.Component
import Wsdl.Check.Document
import Wsdl.Check.Duplicates
import Wsdl.Check.Table
import Wsdl.Check.Inspection.Basic
import Wsdl.Check.Inspection.Component
import Wsdl.Check.Inspection.Document
import Wsdl.Check.Target
import Wsdl.Command.Arguments
import Wsdl.Command.Run
import Wsdl.Command.Report
import Wsdl.Component.Basic
import Wsdl.Component.Derive
import Wsdl.Component.Inheritance
import Wsdl.Content
import Wsdl.Dictionary
import Wsdl.Direction
import Wsdl.Error
import Wsdl.File.Path
import Wsdl.File.System
import Wsdl.File.Tree
import Wsdl.Halving
import Wsdl.Iri.Address
import Wsdl.Iri.Basic
import Wsdl.Iri.Domain
import Wsdl.Iri.DomainTable
import Wsdl.Iri.Host
import Wsdl.Iri.Parse
import Wsdl.Iri.Path
import Wsdl.Iri.Percent
import Wsdl.Iri.Punycode
import Wsdl.Limits
import Wsdl.Location
import Wsdl.Main
import Wsdl.Message
import Wsdl.Name
import Wsdl.NodeKind
import Wsdl.QName
import Wsdl.Reader.Basic
import Wsdl.Reader.Imports
import Wsdl.Rule
import Wsdl.Scope
import Wsdl.Text.BidiClass
import Wsdl.Text.Blank
import Wsdl.Text.CombiningClass
import Wsdl.Text.Composition
import Wsdl.Text.Decomposition
import Wsdl.Text.Joining
import Wsdl.Text.Json
import Wsdl.Text.Mark
import Wsdl.Text.NormalForm
import Wsdl.Text.Printable
import Wsdl.Text.RangeTable
import Wsdl.Text.Utf8
import Wsdl.Violation.Basic
import Wsdl.Violation.Log
import Wsdl.Written.Basic
import Wsdl.Written.Read
import Wsdl.Written.Schema
import Wsdl.Xml.Attribute
import Wsdl.Xml.Document
import Wsdl.Xml.Entity
import Wsdl.Xml.Markup
import Wsdl.Xml.Position
import Wsdl.Xml.Tree
import Wsdl.Proofs.Inheritance
import Wsdl.Proofs.BoundOperations
import Wsdl.Proofs.Validation
import Wsdl.Proofs.Reordering
import Wsdl.Proofs.Walk
import Wsdl.Proofs.DroppedRepeats
import Wsdl.Proofs.Labels
import Wsdl.Proofs.Extensions
import Wsdl.Proofs.ImportedSchemas
import Wsdl.Proofs.Templates
import Wsdl.Proofs.CatalogCircles
import Wsdl.Proofs.Encoding
import Wsdl.Proofs.FileIris
import Wsdl.Proofs.PlainPaths
import Wsdl.Proofs.RemappedImports
import Wsdl.Proofs.UniqueNames
import Wsdl.Proofs.Inspections
import Wsdl.Proofs.Validators
import Wsdl.Proofs.KnownLabels
import Wsdl.Proofs.Completeness
import Wsdl.Proofs.Thoroughness
import Wsdl.Proofs.FilledMessages
import Wsdl.Proofs.StartTags
import Wsdl.Proofs.Nesting
import Wsdl.Proofs.TreeOfTags
import Wsdl.Proofs.ReadingLimits
import Wsdl.Proofs.NearestDeclarations
import Wsdl.Proofs.NameGrammar
import Wsdl.Proofs.Enumeration
import Wsdl.Proofs.InheritedOnce
import Wsdl.Proofs.OverlookedOperations
import Wsdl.Proofs.DanglingReferences
import Wsdl.Proofs.RepeatedEntries
import Wsdl.Proofs.RepeatedDeclarations
import Wsdl.Proofs.Registries
import Wsdl.Proofs.Tallies
import Wsdl.Proofs.MergedCatalogs
import Wsdl.Proofs.SchemaQuota
import Wsdl.Proofs.WrittenOrder
import Wsdl.Proofs.CatalogEntries
import Wsdl.Proofs.MatchedEndpoints
import Wsdl.Proofs.AttributeOrder
import Wsdl.Proofs.LineStarts
import Wsdl.Proofs.LinesAndColumns
import Wsdl.Proofs.SeveralRoots
import Wsdl.Proofs.TagPlaces
import Wsdl.Proofs.MergedSummaries
import Wsdl.Proofs.ShownNames
