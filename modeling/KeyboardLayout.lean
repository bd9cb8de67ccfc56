import KeyboardLayout.Main
import KeyboardLayout.World
import KeyboardLayout.Registry.Source
import KeyboardLayout.Proofs.Cells
import KeyboardLayout.Proofs.Reading
import KeyboardLayout.Proofs.Reachable
import KeyboardLayout.Proofs.DrawnText
import KeyboardLayout.Proofs.Filling
import KeyboardLayout.Proofs.Boards
import KeyboardLayout.Proofs.Sources
import KeyboardLayout.Proofs.Redrawing
import KeyboardLayout.Proofs.Refilling
import KeyboardLayout.Proofs.DeadKeys
import KeyboardLayout.Proofs.KeylayoutElements
import KeyboardLayout.Proofs.KeylayoutActions
import KeyboardLayout.Proofs.KeylayoutMachine
import KeyboardLayout.Proofs.CodePoints
import KeyboardLayout.Proofs.Listings
import KeyboardLayout.Proofs.XkbStatements
import KeyboardLayout.Proofs.WebCompositions
import KeyboardLayout.Proofs.LineMarkers
import KeyboardLayout.Proofs.Tokens
import KeyboardLayout.Proofs.InertLines
import KeyboardLayout.Proofs.ViewLines
import KeyboardLayout.Proofs.KeylayoutLines
import KeyboardLayout.Proofs.PreviewLines
import KeyboardLayout.Proofs.DriverFiles
import KeyboardLayout.Proofs.KlcColumns
import KeyboardLayout.Proofs.KeymapAgreement
import KeyboardLayout.Proofs.DeadKeyOrder
import KeyboardLayout.Proofs.KlcDeadKeys
import KeyboardLayout.Proofs.SimultaneousTokens
import KeyboardLayout.Proofs.DriverValues
import KeyboardLayout.Proofs.BuildRuns
import KeyboardLayout.Proofs.Faults
import KeyboardLayout.Proofs.BrokenReadings
import KeyboardLayout.Proofs.DeadKeyTables
import KeyboardLayout.Proofs.FillOrder
import KeyboardLayout.Proofs.KlcBlocks
import KeyboardLayout.Proofs.PaddedMarks
import KeyboardLayout.Proofs.WindowsSources
import KeyboardLayout.Proofs.CapsLock
import KeyboardLayout.Proofs.KeylayoutStates
import KeyboardLayout.Proofs.Catalogs
import KeyboardLayout.Proofs.RegistryLoading
import KeyboardLayout.Proofs.BuildPaths
import KeyboardLayout.Proofs.DriverRemnants
import KeyboardLayout.Proofs.MarkedLines
import KeyboardLayout.Proofs.MissingPlaces
import KeyboardLayout.Proofs.CommentLines
import KeyboardLayout.Proofs.DriverHeaders
