import RequestSurface.Main
import RequestSurface.Proofs.ImportHistory
import RequestSurface.Proofs.Allocations
import RequestSurface.Proofs.IndependentCalls
import RequestSurface.Proofs.ImportClosure
import RequestSurface.Proofs.ResourceOrder
import RequestSurface.Proofs.UnitPlaces
import RequestSurface.Proofs.Accessors
import RequestSurface.Proofs.BatchFailure
import RequestSurface.Proofs.SurfaceIndependence
import RequestSurface.Proofs.TypeNames
import RequestSurface.Proofs.AppendedParameter
import RequestSurface.Proofs.StandardParameters
import RequestSurface.Proofs.RequestBody
import RequestSurface.Proofs.Footprint
import RequestSurface.Proofs.Agreement
import RequestSurface.Proofs.ResourceNames
import RequestSurface.Proofs.Representation
import RequestSurface.Proofs.GenerateCommand
import RequestSurface.Proofs.HeldFields
import RequestSurface.Proofs.ResourceSites
import RequestSurface.Proofs.WordBreaks
import RequestSurface.Proofs.CamelCase
import RequestSurface.Proofs.AccessorNames
import RequestSurface.Proofs.LoadingOutcome
import RequestSurface.Proofs.Placeholders
import RequestSurface.Proofs.WordCuts
import RequestSurface.Proofs.CasedWords
import RequestSurface.Proofs.DocumentationLines
import RequestSurface.Proofs.SeparatedWords
import RequestSurface.Proofs.OutputDirectory
import RequestSurface.Proofs.SingularNames
