import TokenFilter.Compile
import TokenFilter.Entity
import TokenFilter.Form
import TokenFilter.Version
import TokenFilter.Proofs.Rejection
import TokenFilter.Proofs.Nesting
import TokenFilter.Proofs.Meaning
import TokenFilter.Proofs.Soundness
import TokenFilter.Proofs.Checks
import TokenFilter.Proofs.Printing
import TokenFilter.Proofs.Spelling
import TokenFilter.Proofs.Agreement
import TokenFilter.Proofs.Rearrangement
import TokenFilter.Proofs.Merging
import TokenFilter.Proofs.Resemblance
import TokenFilter.Proofs.Cleaning
import TokenFilter.Proofs.Footprint
import TokenFilter.Proofs.Reports
import TokenFilter.Proofs.Numerals
import TokenFilter.Proofs.JsonText
import TokenFilter.Proofs.ScalarTexts
import TokenFilter.Proofs.Spans
import TokenFilter.Proofs.FloatTexts
import TokenFilter.Proofs.Serialization
import TokenFilter.Proofs.Faithfulness
import TokenFilter.Proofs.Grouping
import TokenFilter.Proofs.Lowering
import TokenFilter.Proofs.Chains
import TokenFilter.Proofs.Quoting
import TokenFilter.Proofs.CaseModes
import TokenFilter.Proofs.Layers
import TokenFilter.Proofs.Listing
import TokenFilter.Proofs.Alphabets
import TokenFilter.Proofs.Bounds
import TokenFilter.Proofs.MomentTexts
import TokenFilter.Proofs.NumberTexts
import TokenFilter.Proofs.Rereading
import TokenFilter.Proofs.Clocks
import TokenFilter.Proofs.Decimals
import TokenFilter.Proofs.Coherence
import TokenFilter.Proofs.Exactness
import TokenFilter.Proofs.Intervals
import TokenFilter.Proofs.Selection
import TokenFilter.Proofs.Lookups
import TokenFilter.Proofs.Utf8Texts
import TokenFilter.Proofs.FormTexts
import TokenFilter.Proofs.Records
import TokenFilter.Proofs.Escapes
import TokenFilter.Proofs.LiteralTexts
import TokenFilter.Proofs.Wordings
import TokenFilter.Proofs.Legibility
import TokenFilter.Proofs.Displays
