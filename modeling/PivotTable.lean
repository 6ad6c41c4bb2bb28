import PivotTable.Config.File
import PivotTable.Outline.Encode
import PivotTable.Service.Handle
import PivotTable.Proofs.Placement.Leaves
import PivotTable.Proofs.Placement.Positions
import PivotTable.Proofs.Placement.Segments
import PivotTable.Proofs.Grouping.Partition
import PivotTable.Proofs.Swap.Exchange
import PivotTable.Proofs.Swap.Plan
import PivotTable.Proofs.Table.Headers
import PivotTable.Proofs.Json.Reading
import PivotTable.Proofs.Swap.Text
import PivotTable.Proofs.Table.Session
import PivotTable.Proofs.Swap.Verdict
import PivotTable.Proofs.Rule.Decode
import PivotTable.Proofs.Rule.Frame
import PivotTable.Proofs.Pipeline
import PivotTable.Proofs.Table.Facts
import PivotTable.Proofs.Rule.Keys
import PivotTable.Proofs.Swap.Delta
import PivotTable.Proofs.Table.Unreadable
import PivotTable.Proofs.Service.Diagnostics
import PivotTable.Proofs.Table.Fingerprint
import PivotTable.Proofs.Swap.Colours
import PivotTable.Proofs.Swap.Cycles
import PivotTable.Proofs.Swap.Drag
import PivotTable.Proofs.Swap.Reach
import PivotTable.Proofs.Rule.Columns
import PivotTable.Proofs.Rule.Kinds
import PivotTable.Proofs.Exclusion
import PivotTable.Proofs.SortKeys.FirstSeen
import PivotTable.Proofs.SortKeys.Ranking
import PivotTable.Proofs.Swap.Composition
import PivotTable.Proofs.Swap.Mending
import PivotTable.Proofs.Exclusion.Blank
import PivotTable.Proofs.Text.Separators
import PivotTable.Proofs.Rule.Entries
import PivotTable.Proofs.Placement.Size
import PivotTable.Proofs.Table.Mismatch
import PivotTable.Proofs.Json.Maps
import PivotTable.Proofs.Swap.Spelling
import PivotTable.Proofs.Outline.Decode
import PivotTable.Proofs.Service.Counters
