import FunctionObjects.Call.Binding
import FunctionObjects.Call.Builtins
import FunctionObjects.Call.Construction
import FunctionObjects.Call.Evaluate
import FunctionObjects.Call.Method
import FunctionObjects.Call.Property
import FunctionObjects.Call.Routine
import FunctionObjects.Class.Core
import FunctionObjects.Class.Declare
import FunctionObjects.Class.Form
import FunctionObjects.Class.Info
import FunctionObjects.Class.Library
import FunctionObjects.Class.Loading
import FunctionObjects.Class.Member
import FunctionObjects.Class.Namespace
import FunctionObjects.Class.Table
import FunctionObjects.Descriptor.Assignable
import FunctionObjects.Descriptor.Basic
import FunctionObjects.Descriptor.Substitution
import FunctionObjects.Descriptor.Text
import FunctionObjects.Descriptor.Union
import FunctionObjects.Document.Basic
import FunctionObjects.Document.Reading
import FunctionObjects.Document.Spec
import FunctionObjects.Document.Writing
import FunctionObjects.Fault
import FunctionObjects.Function.Adapted
import FunctionObjects.Function.Attribute
import FunctionObjects.Function.Base
import FunctionObjects.Function.Chain
import FunctionObjects.Function.Conversion
import FunctionObjects.Function.Dates
import FunctionObjects.Function.Expressions
import FunctionObjects.Function.Fields
import FunctionObjects.Function.Items
import FunctionObjects.Function.Plain
import FunctionObjects.Function.Tables
import FunctionObjects.Function.Unpacked
import FunctionObjects.Logging
import FunctionObjects.Numeral.Decimal
import FunctionObjects.Numeral.Floating
import FunctionObjects.Numeral.Literal
import FunctionObjects.Numeral.Scalar
import FunctionObjects.Numeral.Shortest
import FunctionObjects.Operator.ByKey
import FunctionObjects.Operator.Aggregation
import FunctionObjects.Pipeline.Basic
import FunctionObjects.Pipeline.Config
import FunctionObjects.Predicate.Age
import FunctionObjects.Predicate.Comparison
import FunctionObjects.Predicate.Expressions
import FunctionObjects.Predicate.Logical
import FunctionObjects.Predicate.Membership
import FunctionObjects.Proofs.Document.RoundTrip
import FunctionObjects.Proofs.Equality.Hashing
import FunctionObjects.Proofs.Signature.Reopening
import FunctionObjects.Regex.Matcher
import FunctionObjects.Regex.Reader
import FunctionObjects.Regex.Syntax
import FunctionObjects.Regex.Template
import FunctionObjects.Registry
import FunctionObjects.Signature.Basic
import FunctionObjects.Signature.Recovery
import FunctionObjects.Signature.Resolution
import FunctionObjects.Table.Delimited
import FunctionObjects.Text.Ranges
import FunctionObjects.Text.CaseMap
import FunctionObjects.Text.Json
import FunctionObjects.Text.Printable
import FunctionObjects.Text.Quoted
import FunctionObjects.Text.Word
import FunctionObjects.Time.Calendar
import FunctionObjects.Time.Format
import FunctionObjects.Time.Iso
import FunctionObjects.Time.Moment
import FunctionObjects.Time.Scan
import FunctionObjects.Time.Zone
import FunctionObjects.Tuple.Access
import FunctionObjects.Tuple.Named
import FunctionObjects.Tuple.Positional
import FunctionObjects.ValidationResult
import FunctionObjects.Value.Arithmetic
import FunctionObjects.Value.Basic
import FunctionObjects.Value.Conversion
import FunctionObjects.Value.Cursor
import FunctionObjects.Value.Datum
import FunctionObjects.Value.Frozen
import FunctionObjects.Value.Magnitude
import FunctionObjects.Value.Operators
import FunctionObjects.Value.Order
import FunctionObjects.Value.Text
import FunctionObjects.Value.World
import FunctionObjects.Proofs.Chain.Positions
import FunctionObjects.Proofs.Descriptor.Loosening
import FunctionObjects.Proofs.Descriptor.Widening
import FunctionObjects.Proofs.Signature.Resolving
import FunctionObjects.Proofs.Signature.Wildcard
import FunctionObjects.Proofs.Chain.Soundness
import FunctionObjects.Proofs.Chain.Grouping
import FunctionObjects.Proofs.Signature.Agreeing
import FunctionObjects.Proofs.Pipeline.Written
import FunctionObjects.Proofs.Keyed.Entries
import FunctionObjects.Proofs.Keyed.Standing
import FunctionObjects.Proofs.Keyed.Combining
import FunctionObjects.Proofs.Keyed.Folding
import FunctionObjects.Proofs.Keyed.Totals
import FunctionObjects.Proofs.Keyed.Numbers
import FunctionObjects.Proofs.Keyed.Partial
import FunctionObjects.Proofs.Fields.Contents
import FunctionObjects.Proofs.Fields.Tuples
import FunctionObjects.Proofs.Fields.Stepping
import FunctionObjects.Proofs.Fields.Commuting
import FunctionObjects.Proofs.Document.Context
import FunctionObjects.Proofs.Document.InPlace
import FunctionObjects.Proofs.State.Around
import FunctionObjects.Proofs.State.Computing
import FunctionObjects.Proofs.Descriptor.Boxing
import FunctionObjects.Proofs.Signature.Subclassing
import FunctionObjects.Proofs.Signature.Elements
import FunctionObjects.Proofs.Registry.Naming
import FunctionObjects.Proofs.Validation.Merging
import FunctionObjects.Proofs.State.Adding
import FunctionObjects.Proofs.Keyed.Sparing
import FunctionObjects.Proofs.Equality.Quoting
import FunctionObjects.Proofs.Descriptor.TupleTypes
import FunctionObjects.Proofs.Signature.Reporting
import FunctionObjects.Proofs.Fields.Assigning
import FunctionObjects.Proofs.Fields.Refusing
import FunctionObjects.Proofs.Document.Signatures
import FunctionObjects.Proofs.Signature.Whole
import FunctionObjects.Proofs.Unpacking.Repacking
import FunctionObjects.Proofs.Chain.Splitting
import FunctionObjects.Proofs.Predicate.DeMorgan
import FunctionObjects.Proofs.Filter.Fusing
import FunctionObjects.Proofs.Adapted.Folding
import FunctionObjects.Proofs.Time.Readers
import FunctionObjects.Proofs.Ordering.Tuples
import FunctionObjects.Proofs.Table.Outcomes
import FunctionObjects.Proofs.Descriptor.Composing
