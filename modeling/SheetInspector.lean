import SheetInspector.Comparison
import SheetInspector.Workbook
import SheetInspector.Csv.Sheet
import SheetInspector.Xml.Scan
import SheetInspector.Zip.Archive
import SheetInspector.Zip.Pack
import SheetInspector.Xlsx.Workbook
import SheetInspector.Storage.Tree
import SheetInspector.Main
import SheetInspector.Proofs.Sheet.CellStore
import SheetInspector.Proofs.Extent
import SheetInspector.Proofs.Sheet.Edit
import SheetInspector.Proofs.Comparison.Changes
import SheetInspector.Proofs.Comparison.Patch
import SheetInspector.Proofs.Sheet.History
import SheetInspector.Proofs.Address.Written
import SheetInspector.Proofs.Log.Result
import SheetInspector.Proofs.Sheet.Dense
import SheetInspector.Proofs.Xlsx.CellContent
import SheetInspector.Proofs.Xlsx.Formulas
import SheetInspector.Proofs.Xlsx.ItemText
import SheetInspector.Proofs.Xlsx.SharedTable
import SheetInspector.Proofs.Workbook.Edit
import SheetInspector.Proofs.Workbook.History
import SheetInspector.Proofs.Xlsx.TextForms
import SheetInspector.Proofs.Xlsx.Tabs
import SheetInspector.Proofs.Loading.Sheets
import SheetInspector.Proofs.Command.Opened
import SheetInspector.Proofs.Csv.Fields
import SheetInspector.Proofs.Loading.Contents
import SheetInspector.Proofs.Command.Markers
import SheetInspector.Proofs.Xlsx.Arrangement
import SheetInspector.Proofs.Address.Canonical
import SheetInspector.Proofs.Csv.Detection
import SheetInspector.Proofs.Xlsx.Escapes
import SheetInspector.Proofs.Xlsx.Runs
import SheetInspector.Proofs.Xlsx.TextPieces
import SheetInspector.Proofs.Xlsx.Counters
import SheetInspector.Proofs.Loading.Options
import SheetInspector.Proofs.Address.Numbering
import SheetInspector.Proofs.Sheet.RowLines
import SheetInspector.Proofs.Comparison.Visible
