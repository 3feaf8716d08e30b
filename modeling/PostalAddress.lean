import PostalAddress.Main
import PostalAddress.Template.Session
import PostalAddress.Proofs.Cleanup.Weight
import PostalAddress.Proofs.Cleanup.Passes
import PostalAddress.Proofs.Text.Locality
import PostalAddress.Proofs.Template.Scanning
import PostalAddress.Proofs.Template.Reading
import PostalAddress.Proofs.Template.Bare
import PostalAddress.Proofs.Template.Flat
import PostalAddress.Proofs.Template.Section
import PostalAddress.Proofs.Entries
import PostalAddress.Proofs.Template.Caching
import PostalAddress.Proofs.Template.Running
import PostalAddress.Proofs.Template.Simulation
import PostalAddress.Proofs.Template.Transparency
import PostalAddress.Proofs.Template.Lambdaless
import PostalAddress.Proofs.Address.Layout
import PostalAddress.Proofs.Address.Validated
import PostalAddress.Proofs.Text.Trimming
import PostalAddress.Proofs.Cleanup.Lines
import PostalAddress.Proofs.Address.Output
import PostalAddress.Proofs.Template.Spans
import PostalAddress.Proofs.Template.Placing
import PostalAddress.Proofs.Template.Standalone
import PostalAddress.Proofs.Template.Plain
import PostalAddress.Proofs.Template.Memory
import PostalAddress.Proofs.Text.Continuing
import PostalAddress.Proofs.Template.Continuing
import PostalAddress.Proofs.Template.Moving
import PostalAddress.Proofs.Template.Joining
import PostalAddress.Proofs.Template.LineEnds
import PostalAddress.Proofs.Cleanup.Matches
import PostalAddress.Proofs.Cleanup.Words
import PostalAddress.Proofs.Cleanup.Settled
import PostalAddress.Proofs.Address.Opening
import PostalAddress.Proofs.Address.Rules
import PostalAddress.Proofs.Address.Placed
import PostalAddress.Proofs.Template.Inert
import PostalAddress.Proofs.Template.Escaped
import PostalAddress.Proofs.Address.CountryCode
import PostalAddress.Proofs.Template.Printed
import PostalAddress.Proofs.Address.Shown
import PostalAddress.Proofs.Address.Agreement
import PostalAddress.Proofs.Address.OtherNames
import PostalAddress.Proofs.Address.Invariance
import PostalAddress.Proofs.Address.Choices
import PostalAddress.Proofs.Address.Towns
import PostalAddress.Proofs.Address.Filled
import PostalAddress.Proofs.Address.WebAddresses
import PostalAddress.Proofs.Pattern.Leading
import PostalAddress.Proofs.Address.Hidden
import PostalAddress.Proofs.Address.Attention
import PostalAddress.Proofs.Address.FieldOrder
import PostalAddress.Proofs.Text.Widening
import PostalAddress.Proofs.Template.Indenting
import PostalAddress.Proofs.Template.Reaching
import PostalAddress.Proofs.Template.Matching
import PostalAddress.Proofs.Template.SettingLine
import PostalAddress.Proofs.Template.Faults
import PostalAddress.Proofs.Template.Shapes
import PostalAddress.Proofs.Template.Tracing
import PostalAddress.Proofs.Template.Lambdas
import PostalAddress.Proofs.Address.Aliases
import PostalAddress.Proofs.Address.Redirects
import PostalAddress.Proofs.Template.OwnLine
import PostalAddress.Proofs.Template.Placements
import PostalAddress.Proofs.Cleanup.Shrinking
import PostalAddress.Proofs.Address.MovedKeys
import PostalAddress.Proofs.Template.Lookups
import PostalAddress.Proofs.Pattern.Literal
import PostalAddress.Proofs.Address.Abbreviations
import PostalAddress.Proofs.Address.CanonicalNames
import PostalAddress.Proofs.ReadBack
import PostalAddress.Proofs.Address.Alternatives
import PostalAddress.Proofs.Template.Balance
import PostalAddress.Proofs.Pattern.Paths
import PostalAddress.Proofs.Pattern.Language
import PostalAddress.Proofs.Pattern.Leftmost
import PostalAddress.Proofs.Template.Partition
