import PathTemplate.Cache
import PathTemplate.Catalog
import PathTemplate.Catalog.Yaml
import PathTemplate.Constraint
import PathTemplate.DotSegments
import PathTemplate.Element
import PathTemplate.Element.Binding
import PathTemplate.Element.Expansion
import PathTemplate.Element.Fragment
import PathTemplate.Error
import PathTemplate.Event
import PathTemplate.Multimap
import PathTemplate.OperatorKind
import PathTemplate.Options
import PathTemplate.Part
import PathTemplate.Part.Reader
import PathTemplate.Percent
import PathTemplate.Proofs.Cache
import PathTemplate.Proofs.Catalog
import PathTemplate.Proofs.Constraint
import PathTemplate.Proofs.Constraint.Pieces
import PathTemplate.Proofs.DotSegments
import PathTemplate.Proofs.DotSegments.NormalForm
import PathTemplate.Proofs.DotSegments.Rewriting
import PathTemplate.Proofs.Element.Binding
import PathTemplate.Proofs.Element.Ledger
import PathTemplate.Proofs.Element.Pieces
import PathTemplate.Proofs.Multimap
import PathTemplate.Proofs.Multimap.Changes
import PathTemplate.Proofs.Part.Expressions
import PathTemplate.Proofs.Part.Grammar
import PathTemplate.Proofs.Part.SimpleGrammar
import PathTemplate.Proofs.Percent
import PathTemplate.Proofs.Percent.Escapes
import PathTemplate.Proofs.Regex.Action
import PathTemplate.Proofs.Regex.ActionLocality
import PathTemplate.Proofs.Regex.ClassExtension
import PathTemplate.Proofs.Regex.ClassLocality
import PathTemplate.Proofs.Regex.Enclosure
import PathTemplate.Proofs.Regex.Erasure
import PathTemplate.Proofs.Regex.Extension
import PathTemplate.Proofs.Regex.Groups
import PathTemplate.Proofs.Regex.Locality
import PathTemplate.Proofs.Regex.Matching
import PathTemplate.Proofs.Regex.Preference
import PathTemplate.Proofs.Regex.Priority
import PathTemplate.Proofs.Regex.PropertyName
import PathTemplate.Proofs.Regex.Soundness
import PathTemplate.Proofs.Regex.Spelling
import PathTemplate.Proofs.Regex.Splice
import PathTemplate.Proofs.Regex.Unrecorded
import PathTemplate.Proofs.Segment
import PathTemplate.Proofs.Template.Bindings
import PathTemplate.Proofs.Template.Bookkeeping
import PathTemplate.Proofs.Template.Building
import PathTemplate.Proofs.Template.Captures
import PathTemplate.Proofs.Template.Compilation
import PathTemplate.Proofs.Template.Constraints
import PathTemplate.Proofs.Template.Cutting
import PathTemplate.Proofs.Template.Decomposition
import PathTemplate.Proofs.Template.Encoding
import PathTemplate.Proofs.Template.Expansion
import PathTemplate.Proofs.Template.Joins
import PathTemplate.Proofs.Template.LazyMatcher
import PathTemplate.Proofs.Template.LeadingSlash
import PathTemplate.Proofs.Template.OperatorValues
import PathTemplate.Proofs.Template.PathOperators
import PathTemplate.Proofs.Template.Placement
import PathTemplate.Proofs.Template.Preference
import PathTemplate.Proofs.Template.Recording
import PathTemplate.Proofs.Template.Reexpansion
import PathTemplate.Proofs.Template.RoundTrip
import PathTemplate.Proofs.Template.Shifting
import PathTemplate.Proofs.Template.ShortestSplit
import PathTemplate.Proofs.Template.Sorting
import PathTemplate.Proofs.Template.Spans
import PathTemplate.Proofs.Template.Specificity
import PathTemplate.Proofs.Template.Starts
import PathTemplate.Proofs.Template.SubResources
import PathTemplate.Proofs.Template.TextExpansion
import PathTemplate.Proofs.Template.TrailingSlash
import PathTemplate.Proofs.Template.Windows
import PathTemplate.Proofs.Text
import PathTemplate.Proofs.Text.Splitting
import PathTemplate.Proofs.Text.Utf8
import PathTemplate.Regex.Atom
import PathTemplate.Regex.Basic
import PathTemplate.Regex.Bracket
import PathTemplate.Regex.CharClass
import PathTemplate.Regex.Denotation
import PathTemplate.Regex.Pattern
import PathTemplate.Regex.Reader
import PathTemplate.Regex.Search
import PathTemplate.Regex.Written
import PathTemplate.Segment
import PathTemplate.Template
import PathTemplate.Template.Expansion
import PathTemplate.Template.LazyMatcher
import PathTemplate.Template.Matcher
import PathTemplate.Template.Pattern
import PathTemplate.Template.SegmentWalk
import PathTemplate.Template.Specificity
import PathTemplate.Text
import PathTemplate.Text.Utf8
import PathTemplate.Unicode.Age
import PathTemplate.Unicode.BinaryProperty
import PathTemplate.Unicode.CaseFold
import PathTemplate.Unicode.GeneralCategory
import PathTemplate.Unicode.Property
import PathTemplate.Unicode.RangeTable
import PathTemplate.Unicode.Script
import PathTemplate.Unicode.ScriptExtension
import PathTemplate.Unicode.SegmentBreak
import PathTemplate.Unicode.Word
import PathTemplate.Yaml.Cursor
import PathTemplate.Yaml.Document
import PathTemplate.Yaml.Layout
import PathTemplate.Yaml.Node
import PathTemplate.Yaml.Node.Reader
import PathTemplate.Yaml.Scalar
import PathTemplate.Yaml.Spacing
import PathTemplate.Yaml.Token
