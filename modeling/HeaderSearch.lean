import HeaderSearch.Main
import HeaderSearch.Packages
import HeaderSearch.Proofs.Path.Cleaning
import HeaderSearch.Proofs.Path.Ancestors
import HeaderSearch.Proofs.Text.Encoding
import HeaderSearch.Proofs.Path.Readable
import HeaderSearch.Proofs.Catalog.Contents
import HeaderSearch.Proofs.Resolution.Stages
import HeaderSearch.Proofs.Resolution.SystemHit
import HeaderSearch.Proofs.Resolution.IncludeDir
import HeaderSearch.Proofs.Resolution.Indexed
import HeaderSearch.Proofs.Disk.Reached
import HeaderSearch.Proofs.Resolution.LocalHit
import HeaderSearch.Proofs.Unordered
import HeaderSearch.Proofs.Resolution.Partition
import HeaderSearch.Proofs.Include.Joined
import HeaderSearch.Proofs.Project.Extraction
import HeaderSearch.Proofs.Disk.Bisimulation
import HeaderSearch.Proofs.Disk.Seek
import HeaderSearch.Proofs.Disk.Walked
import HeaderSearch.Proofs.Catalog.Admitted
import HeaderSearch.Proofs.Disk.Reordered
import HeaderSearch.Proofs.Catalog.Spellings
import HeaderSearch.Proofs.Resolution.ListingOrder
import HeaderSearch.Proofs.Disk.Order
import HeaderSearch.Proofs.Project.Sources
import HeaderSearch.Proofs.Project.HeaderKind
import HeaderSearch.Proofs.Project.Outcome
import HeaderSearch.Proofs.Project.LinkedDirectories
import HeaderSearch.Proofs.Catalog.Roots
import HeaderSearch.Proofs.Project.Headers
import HeaderSearch.Proofs.Resolution.EarlierStages
import HeaderSearch.Proofs.Resolution.Ranking
import HeaderSearch.Proofs.Resolution.Growing
import HeaderSearch.Proofs.Json.Writable
import HeaderSearch.Proofs.Resolution.Readable
import HeaderSearch.Proofs.CommandLine.Output
import HeaderSearch.Proofs.Path.Displayed
import HeaderSearch.Proofs.Disk.Respelled
import HeaderSearch.Proofs.Catalog.Respelled
import HeaderSearch.Proofs.Resolution.Respelled
import HeaderSearch.Proofs.Resolution.RunningBest
import HeaderSearch.Proofs.CommandLine.Reading
import HeaderSearch.Proofs.CommandLine.Verbosity
import HeaderSearch.Proofs.Json.Members
import HeaderSearch.Proofs.Path.Composed
import HeaderSearch.Proofs.Path.Climbing
import HeaderSearch.Proofs.Disk.Admissible
import HeaderSearch.Proofs.Disk.Unlinked
import HeaderSearch.Proofs.Disk.Cleaned
import HeaderSearch.Proofs.Include.Lines
import HeaderSearch.Proofs.Text.Trimmed
import HeaderSearch.Proofs.Include.Layout
import HeaderSearch.Proofs.Include.Written
import HeaderSearch.Proofs.Include.Tail
import HeaderSearch.Proofs.Text.Splitting
import HeaderSearch.Proofs.Text.Shown
import HeaderSearch.Proofs.Text.Lowered
import HeaderSearch.Proofs.Path.Extension
import HeaderSearch.Proofs.Text.Replaced
import HeaderSearch.Proofs.Resolution.BareFlag
import HeaderSearch.Proofs.Path.Tidy
import HeaderSearch.Proofs.Path.NormalForm
import HeaderSearch.Proofs.Resolution.DirOrder
import HeaderSearch.Proofs.Resolution.WholeComponents
import HeaderSearch.Proofs.Catalog.FirstSpellings
import HeaderSearch.Proofs.Path.NewSpellings
import HeaderSearch.Proofs.CommandLine.Grammar
import HeaderSearch.Proofs.CommandLine.Roots
import HeaderSearch.Proofs.Resolution.Fallback
import HeaderSearch.Proofs.Json.Escaped
import HeaderSearch.Proofs.Json.Delimited
import HeaderSearch.Proofs.Json.Reports
