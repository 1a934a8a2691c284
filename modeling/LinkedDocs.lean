import LinkedDocs.Binding.Basic
import LinkedDocs.Entity.Catalog
import LinkedDocs.Entity.Conversion
import LinkedDocs.Entity.Type
import LinkedDocs.Expr.Evaluation
import LinkedDocs.Expr.Reading
import LinkedDocs.Expr.Token
import LinkedDocs.Expr.Tree
import LinkedDocs.ExtendedJson
import LinkedDocs.Failure
import LinkedDocs.Lazy.Operation
import LinkedDocs.Lazy.Proxy
import LinkedDocs.Lazy.Supply
import LinkedDocs.Moment
import LinkedDocs.Number.Binary64
import LinkedDocs.Number.Bits
import LinkedDocs.Number.DecimalText
import LinkedDocs.Number.Fixed
import LinkedDocs.Number.Reading
import LinkedDocs.Number.Shortest
import LinkedDocs.ObjectId
import LinkedDocs.Pattern.Basic
import LinkedDocs.Pattern.Compiled
import LinkedDocs.Pattern.Matching
import LinkedDocs.Pattern.Reading
import LinkedDocs.Proofs.StableSorting
import LinkedDocs.Reference.BranchOrder
import LinkedDocs.Reference.Context
import LinkedDocs.Reference.Filter
import LinkedDocs.Reference.Property
import LinkedDocs.Reference.Reading
import LinkedDocs.Reference.Resolving
import LinkedDocs.Run
import LinkedDocs.Scan.Basic
import LinkedDocs.Scan.Lexemes
import LinkedDocs.Sorting
import LinkedDocs.Store.Memory
import LinkedDocs.Store.Query
import LinkedDocs.Store.Recorded
import LinkedDocs.Store.Remote
import LinkedDocs.Template.Block
import LinkedDocs.Template.Decoding
import LinkedDocs.Template.Plain
import LinkedDocs.Template.Reading
import LinkedDocs.Template.Segment
import LinkedDocs.Template.Token
import LinkedDocs.Template.Tree
import LinkedDocs.Text.Base64
import LinkedDocs.Text.Blank
import LinkedDocs.Text.Case
import LinkedDocs.Text.Digit
import LinkedDocs.Text.Kind
import LinkedDocs.Text.Letter
import LinkedDocs.Text.Part
import LinkedDocs.Text.Printable
import LinkedDocs.Text.Quoted
import LinkedDocs.Url
import LinkedDocs.Value.Attribute
import LinkedDocs.Value.Basic
import LinkedDocs.Value.Collection
import LinkedDocs.Value.Container
import LinkedDocs.Value.Equality
import LinkedDocs.Value.FieldSpec
import LinkedDocs.Value.FieldText
import LinkedDocs.Value.Formatting
import LinkedDocs.Value.Member
import LinkedDocs.Value.Method
import LinkedDocs.Value.Operator
import LinkedDocs.Value.Order
import LinkedDocs.Value.PartMethod
import LinkedDocs.Value.Shown
import LinkedDocs.Value.Stored
import LinkedDocs.Value.TextMethod
import LinkedDocs.Proofs.BranchOrdering
import LinkedDocs.Proofs.PlainFilter
import LinkedDocs.Proofs.StoreOrder
import LinkedDocs.Proofs.ReferenceOrder
import LinkedDocs.Proofs.ProxyLoading
import LinkedDocs.Proofs.ProxyOperations
import LinkedDocs.Proofs.ProxyMethods
import LinkedDocs.Proofs.Scanning
import LinkedDocs.Proofs.Lexemes
import LinkedDocs.Proofs.TemplateGrammar
import LinkedDocs.Proofs.ExpressionBlock
import LinkedDocs.Proofs.TemplateWords
import LinkedDocs.Proofs.TemplatePrinting
import LinkedDocs.Proofs.ExpressionGrammar
import LinkedDocs.Proofs.ExpressionPrinting
import LinkedDocs.Proofs.Segments
import LinkedDocs.Proofs.JsonText
import LinkedDocs.Proofs.JsonNumbers
import LinkedDocs.Proofs.JsonTemplates
import LinkedDocs.Proofs.BoundText
import LinkedDocs.Proofs.StoreRuns
import LinkedDocs.Proofs.StoredForm
import LinkedDocs.Proofs.Outcomes
import LinkedDocs.Proofs.WrittenForms
import LinkedDocs.Proofs.BoundValues
import LinkedDocs.Proofs.StorableFilters
import LinkedDocs.Proofs.Evaluation
import LinkedDocs.Proofs.Sums
import LinkedDocs.Proofs.KeyedValues
import LinkedDocs.Proofs.Requests
import LinkedDocs.Proofs.ReadingEffects
import LinkedDocs.Proofs.LazyTwin
import LinkedDocs.Proofs.ExpressionFaults
import LinkedDocs.Proofs.BlockSurroundings
import LinkedDocs.Proofs.LosslessSplit
import LinkedDocs.Proofs.Spellings
import LinkedDocs.Proofs.PlainTemplates
import LinkedDocs.Proofs.OpenerNeutrality
import LinkedDocs.Proofs.QueryMeaning
import LinkedDocs.Proofs.KeptText
import LinkedDocs.Proofs.ComputedContexts
import LinkedDocs.Proofs.PointerLists
import LinkedDocs.Proofs.ScopeUse
import LinkedDocs.Proofs.ProxyOperands
import LinkedDocs.Proofs.ConstructorArguments
import LinkedDocs.Proofs.StoredInstances
import LinkedDocs.Proofs.ClientExchanges
import LinkedDocs.Proofs.WordExchange
import LinkedDocs.Proofs.KeyPlaces
import LinkedDocs.Proofs.KeySpellings
