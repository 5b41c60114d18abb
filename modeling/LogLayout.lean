import LogLayout.Layout.Report
import LogLayout.Settings.Apply
import LogLayout.Exception.Sources
import LogLayout.Keyed.Indexed
import LogLayout.Normalize.Filling
import LogLayout.Proofs.Json.Reader
import LogLayout.Proofs.Number.Rounding
import LogLayout.Proofs.Number.ShortestDecimal
import LogLayout.Proofs.Json.NumberText
import LogLayout.Proofs.Json.RoundTrip
import LogLayout.Proofs.Json.Printable
import LogLayout.Proofs.Arrangement.Scanning
import LogLayout.Proofs.Arrangement.FlatText
import LogLayout.Proofs.Layout.Literals
import LogLayout.Proofs.Normalize.FiniteNumbers
import LogLayout.Proofs.Arrangement.InPlace
import LogLayout.Proofs.Layout.Watching
import LogLayout.Proofs.Layout.Failures
import LogLayout.Proofs.Layout.Runs
import LogLayout.Proofs.Normalize.Levels
import LogLayout.Proofs.Arrangement.Nesting
import LogLayout.Proofs.Layout.Splicing
import LogLayout.Proofs.Layout.Groups
import LogLayout.Proofs.Arrangement.Joining
import LogLayout.Proofs.Arrangement.Cutting
import LogLayout.Proofs.Layout.Flattened
import LogLayout.Proofs.Layout.Building
import LogLayout.Proofs.Arrangement.Segments
import LogLayout.Proofs.Arrangement.Faults
import LogLayout.Proofs.Arrangement.GroupText
import LogLayout.Proofs.Arrangement.Nestable
import LogLayout.Proofs.Layout.Getters
import LogLayout.Proofs.Layout.Dates
import LogLayout.Proofs.Template.Grammar
import LogLayout.Proofs.Template.Meaning
import LogLayout.Proofs.Template.Composition
import LogLayout.Proofs.Normalize.Depth
import LogLayout.Proofs.Template.Textless
import LogLayout.Proofs.Normalize.Gathering
import LogLayout.Proofs.Normalize.Faithful
import LogLayout.Proofs.Normalize.Objects
import LogLayout.Proofs.Normalize.Injected
import LogLayout.Proofs.Keyed.Indexed
import LogLayout.Proofs.Normalize.Filling
import LogLayout.Proofs.Layout.Unnamed
import LogLayout.Proofs.Arrangement.Presets
import LogLayout.Proofs.Settings.Sections
import LogLayout.Proofs.Calendar.Timestamps
import LogLayout.Proofs.Calendar.Sorting
import LogLayout.Proofs.Normalize.Exceptions
import LogLayout.Proofs.Conversion.Registries
import LogLayout.Proofs.Json.Slots
import LogLayout.Proofs.Json.Runs
import LogLayout.Proofs.Exception.Sources
