import Exemplar.Declaration.Attribute
import Exemplar.Declaration.Basic
import Exemplar.Declaration.Blueprint
import Exemplar.Declaration.FieldType
import Exemplar.Declaration.Identifier
import Exemplar.Declaration.Reader
import Exemplar.Declaration.Rejection
import Exemplar.Descriptor.Basic
import Exemplar.Descriptor.Printer
import Exemplar.Descriptor.Reader
import Exemplar.Fault
import Exemplar.Grammar.Attribute
import Exemplar.Grammar.Basic
import Exemplar.Grammar.Bound
import Exemplar.Grammar.Condition
import Exemplar.Grammar.Data
import Exemplar.Grammar.Expression
import Exemplar.Grammar.Function
import Exemplar.Grammar.Item
import Exemplar.Grammar.Member
import Exemplar.Grammar.Operation
import Exemplar.Grammar.Operator
import Exemplar.Grammar.Parameter
import Exemplar.Grammar.Path
import Exemplar.Grammar.Pattern
import Exemplar.Grammar.Reader
import Exemplar.Grammar.Rules
import Exemplar.Grammar.Statement
import Exemplar.Grammar.Type
import Exemplar.Number.Floating
import Exemplar.Number.Integer
import Exemplar.Number.Shortest
import Exemplar.Outline
import Exemplar.Proofs.Declaration.Erasure
import Exemplar.Proofs.Declaration.Instantiation
import Exemplar.Proofs.Declaration.Problems
import Exemplar.Proofs.Declaration.Registration
import Exemplar.Proofs.Descriptor.Composition
import Exemplar.Proofs.Descriptor.Display
import Exemplar.Proofs.Descriptor.Flaw
import Exemplar.Proofs.Descriptor.Grammar
import Exemplar.Proofs.Descriptor.RoundTrip
import Exemplar.Proofs.Descriptor.Substitution
import Exemplar.Proofs.Storage.Chain
import Exemplar.Proofs.Storage.Clauses
import Exemplar.Proofs.Storage.Drafts
import Exemplar.Proofs.Storage.Inheritance
import Exemplar.Proofs.Storage.Registration
import Exemplar.Proofs.Storage.Slots
import Exemplar.Proofs.Storage.Superclass
import Exemplar.Proofs.Synthesis.Aftermath
import Exemplar.Proofs.Synthesis.Blame
import Exemplar.Proofs.Synthesis.Blindness
import Exemplar.Proofs.Synthesis.Buildability
import Exemplar.Proofs.Synthesis.Coloring
import Exemplar.Proofs.Synthesis.Consistency
import Exemplar.Proofs.Synthesis.Containers
import Exemplar.Proofs.Synthesis.Correspondence
import Exemplar.Proofs.Synthesis.Coverage
import Exemplar.Proofs.Synthesis.Distinction
import Exemplar.Proofs.Synthesis.Evaluation
import Exemplar.Proofs.Synthesis.Examples
import Exemplar.Proofs.Synthesis.History
import Exemplar.Proofs.Synthesis.Interning
import Exemplar.Proofs.Synthesis.Isolation
import Exemplar.Proofs.Synthesis.Locality
import Exemplar.Proofs.Synthesis.Lockstep
import Exemplar.Proofs.Synthesis.Precedence
import Exemplar.Proofs.Synthesis.Recipe
import Exemplar.Proofs.Synthesis.Records
import Exemplar.Proofs.Synthesis.Refinement
import Exemplar.Proofs.Synthesis.Registries
import Exemplar.Proofs.Synthesis.Requirement
import Exemplar.Proofs.Synthesis.Run
import Exemplar.Proofs.Synthesis.Settings
import Exemplar.Proofs.Synthesis.Stability
import Exemplar.Proofs.Synthesis.Standard
import Exemplar.Proofs.Synthesis.Termination
import Exemplar.Proofs.Synthesis.Traversal
import Exemplar.Proofs.Table
import Exemplar.Proofs.Text.Padding
import Exemplar.Proofs.Value.Duplication
import Exemplar.Proofs.Value.Equivalence
import Exemplar.Proofs.Value.Insertion
import Exemplar.Proofs.Value.Lookup
import Exemplar.Proofs.Value.Matching
import Exemplar.Proofs.Value.Parts
import Exemplar.Proofs.Value.Renumbering
import Exemplar.Proofs.Value.Shape
import Exemplar.Proofs.Value.Unordered
import Exemplar.Storage.Blank
import Exemplar.Storage.Catalog
import Exemplar.Storage.Layout
import Exemplar.Supply
import Exemplar.Synthesis.Assembly
import Exemplar.Synthesis.Configuration
import Exemplar.Synthesis.Factory
import Exemplar.Synthesis.Registry
import Exemplar.Synthesis.RequestPath
import Exemplar.Synthesis.Resolution
import Exemplar.Synthesis.Resolver
import Exemplar.Table
import Exemplar.Text.Extender
import Exemplar.Text.Printable
import Exemplar.Text.Quoted
import Exemplar.Text.Ranges
import Exemplar.Text.Space
import Exemplar.Token.Basic
import Exemplar.Token.Beginning
import Exemplar.Token.Lexer
import Exemplar.Token.Literal
import Exemplar.Token.Numeral
import Exemplar.Value.Basic
import Exemplar.Value.Equality
import Exemplar.Value.Mapping
import Exemplar.Value.Primitive
import Exemplar.Value.Printer
import Exemplar.Value.Triple
