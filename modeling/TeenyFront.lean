import TeenyFront.Main
import TeenyFront.Files.Tree
import TeenyFront.Proofs.EarliestError
import TeenyFront.Proofs.Lines
import TeenyFront.Proofs.Translation
import TeenyFront.Proofs.WellFormed
import TeenyFront.Proofs.Layout
import TeenyFront.Proofs.Outline
import TeenyFront.Proofs.Rendering
import TeenyFront.Proofs.Displacement
import TeenyFront.Proofs.Concatenation
import TeenyFront.Proofs.Scanning
import TeenyFront.Proofs.JsonLibrary
import TeenyFront.Proofs.Faults
import TeenyFront.Proofs.TraceLines
import TeenyFront.Proofs.NestingLimit
import TeenyFront.Proofs.PartialTrace
import TeenyFront.Proofs.Runs
import TeenyFront.Proofs.ParseCommand
import TeenyFront.Proofs.JsonText
import TeenyFront.Proofs.JsonRecord
import TeenyFront.Proofs.JsonLines
import TeenyFront.Proofs.Offenders
import TeenyFront.Proofs.Sessions
import TeenyFront.Proofs.Iteration
import TeenyFront.Proofs.Sentences
import TeenyFront.Proofs.Rounds
import TeenyFront.Proofs.Work
import TeenyFront.Proofs.LineEnds
import TeenyFront.Proofs.Diagnostics
import TeenyFront.Proofs.Recording
import TeenyFront.Proofs.SettingsText
import TeenyFront.Proofs.Endings
import TeenyFront.Proofs.Trees
import TeenyFront.Proofs.Precedence
import TeenyFront.Proofs.Footprint
import TeenyFront.Proofs.JsonStrings
import TeenyFront.Proofs.JsonGrammar
import TeenyFront.Proofs.JsonSkipping
import TeenyFront.Proofs.SettingsObject
import TeenyFront.Proofs.Resumption
