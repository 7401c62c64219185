import PageClip.Address
import PageClip.Answer
import PageClip.Binary64
import PageClip.CanonicalUrl
import PageClip.Catalog
import PageClip.CharacterClass
import PageClip.CharacterNameTable
import PageClip.CharacterReference
import PageClip.Charset
import PageClip.CharsetTable
import PageClip.Checked
import PageClip.Classification
import PageClip.CodeTable
import PageClip.ContentCoding
import PageClip.ContentType
import PageClip.DecimalDigit
import PageClip.DecompositionTable
import PageClip.Dict
import PageClip.Direction
import PageClip.Expression
import PageClip.Fetch
import PageClip.FunctionSource
import PageClip.HostLabel
import PageClip.HostMappingTable
import PageClip.HtmlPage
import PageClip.HuffmanCode
import PageClip.IdentifierTable
import PageClip.Inflate
import PageClip.Joiner
import PageClip.JsonText
import PageClip.LabelTable
import PageClip.Literal
import PageClip.Lowercase
import PageClip.Markup
import PageClip.MarkupToken
import PageClip.Normalization
import PageClip.OpenElements
import PageClip.Page
import PageClip.PercentCoding
import PageClip.PrintableTable
import PageClip.Proofs.Balance
import PageClip.Proofs.Blank
import PageClip.Proofs.BodyGathering
import PageClip.Proofs.BracketKinds
import PageClip.Proofs.BracketMatching
import PageClip.Proofs.CatalogSource
import PageClip.Proofs.CommentCut
import PageClip.Proofs.CommentFree
import PageClip.Proofs.Composition
import PageClip.Proofs.ContentLines
import PageClip.Proofs.CoreFields
import PageClip.Proofs.EndpointLimits
import PageClip.Proofs.EntryForm
import PageClip.Proofs.EscapedText
import PageClip.Proofs.EvaluationDepth
import PageClip.Proofs.Execution
import PageClip.Proofs.ExpressionMeaning
import PageClip.Proofs.ExpressionParts
import PageClip.Proofs.FallbackQuotes
import PageClip.Proofs.FetchFault
import PageClip.Proofs.FetchStatus
import PageClip.Proofs.FetchTurns
import PageClip.Proofs.FieldExtent
import PageClip.Proofs.FieldReferences
import PageClip.Proofs.FunctionGrammar
import PageClip.Proofs.FunctionParts
import PageClip.Proofs.GuessPatterns
import PageClip.Proofs.GuessedTemplate
import PageClip.Proofs.InternalHosts
import PageClip.Proofs.LiteralExtent
import PageClip.Proofs.OperandForms
import PageClip.Proofs.PageData
import PageClip.Proofs.PageMetadata
import PageClip.Proofs.PageOpacity
import PageClip.Proofs.PageResponse
import PageClip.Proofs.ReturnSite
import PageClip.Proofs.SplitJoin
import PageClip.Proofs.Splitting
import PageClip.Proofs.TemplateNames
import PageClip.Proofs.TemplateParts
import PageClip.Proofs.TopLevel
import PageClip.Proofs.WrittenExpression
import PageClip.Proofs.WrittenFunction
import PageClip.Punycode
import PageClip.RateLimit
import PageClip.Request
import PageClip.RequestUrl
import PageClip.Scan
import PageClip.Service
import PageClip.Template
import PageClip.Text
import PageClip.Url
import PageClip.Value
import PageClip.WebHost
