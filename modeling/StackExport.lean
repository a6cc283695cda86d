import StackExport.Main
import StackExport.Grammar
import StackExport.Proofs.StreamNesting
import StackExport.Proofs.WriterRun
import StackExport.Proofs.ResourceCompleteness
import StackExport.Proofs.WritableStream
import StackExport.Proofs.EmitterIsolation
import StackExport.Proofs.SerializedResource
import StackExport.Proofs.RenderingIndependence
import StackExport.Proofs.ResolutionSoundness
import StackExport.Proofs.RepairRound
import StackExport.Proofs.RenderingResult
import StackExport.Proofs.SubstitutionReading
import StackExport.Proofs.VariableReferences
import StackExport.Proofs.RenderingAgreement
import StackExport.Proofs.RepairRun
import StackExport.Proofs.RepairIndependence
import StackExport.Proofs.MapData
import StackExport.Proofs.ComputedAttributes
import StackExport.Proofs.ConflictGroups
import StackExport.Proofs.DataSourceLookups
import StackExport.Proofs.ParameterValues
import StackExport.Proofs.CodeWords
import StackExport.Proofs.ExpressionWords
import StackExport.Proofs.DeclaredNames
import StackExport.Proofs.ResourceReferences
import StackExport.Proofs.ParsedTemplate
import StackExport.Proofs.TemplateDependencies
import StackExport.Proofs.CreationOrder
import StackExport.Proofs.ResourceSection
import StackExport.Proofs.DependencyCoverage
import StackExport.Proofs.StreamReading
import StackExport.Proofs.KeyPaths
import StackExport.Proofs.TreePaths
import StackExport.Proofs.SerializedTree
import StackExport.Proofs.PrintedValues
import StackExport.Proofs.ResolutionTransparency
import StackExport.Proofs.LookupTables
import StackExport.Proofs.StructuralLines
import StackExport.Proofs.RepairEdits
import StackExport.Proofs.RepairSteps
import StackExport.Proofs.RepairCount
import StackExport.Proofs.ExpiryBlocks
import StackExport.Proofs.IndexedReferences
import StackExport.Proofs.AttributeAgreement
import StackExport.Proofs.FailedRendering
import StackExport.Proofs.SortedEntries
import StackExport.Proofs.MergedRules
import StackExport.Proofs.ConflictDecisions
import StackExport.Proofs.EntryOrder
import StackExport.Proofs.ReplacedElement
import StackExport.Proofs.SiblingElements
import StackExport.Proofs.NestingFaults
import StackExport.Proofs.PatternLanguage
import StackExport.Proofs.QueueRuns
import StackExport.Proofs.RangeRemoval
import StackExport.Proofs.BarewordQuoting
import StackExport.Proofs.EscapedText
import StackExport.Proofs.DeclaredLiterals
import StackExport.Proofs.DeclarationOrder
import StackExport.Proofs.PrintedParts
import StackExport.Proofs.CallForms
import StackExport.Proofs.ShortForms
import StackExport.Proofs.SchemaLookup
import StackExport.Proofs.ValueLookahead
import StackExport.Proofs.PathText
