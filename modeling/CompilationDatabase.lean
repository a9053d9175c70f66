import CompilationDatabase.Build.Basic
import CompilationDatabase.Build.Target
import CompilationDatabase.Command.Basic
import CompilationDatabase.Command.Generator
import CompilationDatabase.CommandLine.Arguments
import CompilationDatabase.CommandLine.Options
import CompilationDatabase.CommandLine.Run
import CompilationDatabase.CommandLine.Survey
import CompilationDatabase.Condition
import CompilationDatabase.Expansion
import CompilationDatabase.Fault
import CompilationDatabase.File.Error
import CompilationDatabase.File.Tree
import CompilationDatabase.Item.Basic
import CompilationDatabase.Item.ExternalIncludes
import CompilationDatabase.Metadata
import CompilationDatabase.NameTable
import CompilationDatabase.Notice
import CompilationDatabase.Path.Basic
import CompilationDatabase.Path.Lexical
import CompilationDatabase.Project.Basic
import CompilationDatabase.Project.Builder
import CompilationDatabase.Project.Document
import CompilationDatabase.Proofs.Balanced
import CompilationDatabase.Proofs.Borrowing
import CompilationDatabase.Proofs.CaseLetters
import CompilationDatabase.Proofs.CleanLists
import CompilationDatabase.Proofs.Comparisons
import CompilationDatabase.Proofs.Computations
import CompilationDatabase.Proofs.Concatenation
import CompilationDatabase.Proofs.Contents
import CompilationDatabase.Proofs.Conversion
import CompilationDatabase.Proofs.CopyOnWrite
import CompilationDatabase.Proofs.Cycle
import CompilationDatabase.Proofs.Decomposition
import CompilationDatabase.Proofs.Derivation
import CompilationDatabase.Proofs.EarlierItems
import CompilationDatabase.Proofs.EntryFiles
import CompilationDatabase.Proofs.ExternalOptions
import CompilationDatabase.Proofs.FaultLocations
import CompilationDatabase.Proofs.Faults
import CompilationDatabase.Proofs.FileChanges
import CompilationDatabase.Proofs.FurtherMacros
import CompilationDatabase.Proofs.GroupOrder
import CompilationDatabase.Proofs.Independence
import CompilationDatabase.Proofs.Inheritance
import CompilationDatabase.Proofs.InheritedNames
import CompilationDatabase.Proofs.Leftovers
import CompilationDatabase.Proofs.LetterCase
import CompilationDatabase.Proofs.LoadFaults
import CompilationDatabase.Proofs.LowerCase
import CompilationDatabase.Proofs.NormalPaths
import CompilationDatabase.Proofs.Outputs
import CompilationDatabase.Proofs.Overrides
import CompilationDatabase.Proofs.PathParts
import CompilationDatabase.Proofs.Pieces
import CompilationDatabase.Proofs.Precedence
import CompilationDatabase.Proofs.PrintedSolutions
import CompilationDatabase.Proofs.PropertyOptions
import CompilationDatabase.Proofs.PropertyStrings
import CompilationDatabase.Proofs.RelativeFiles
import CompilationDatabase.Proofs.RelativePaths
import CompilationDatabase.Proofs.RepeatedRequests
import CompilationDatabase.Proofs.ReportedCycles
import CompilationDatabase.Proofs.Resolution
import CompilationDatabase.Proofs.ResolvedItems
import CompilationDatabase.Proofs.Scope
import CompilationDatabase.Proofs.Sharing
import CompilationDatabase.Proofs.ShellWords
import CompilationDatabase.Proofs.SingleProjects
import CompilationDatabase.Proofs.SolutionNames
import CompilationDatabase.Proofs.Solutions
import CompilationDatabase.Proofs.Splices
import CompilationDatabase.Proofs.Symbols
import CompilationDatabase.Proofs.TableEntries
import CompilationDatabase.Proofs.TableHistory
import CompilationDatabase.Proofs.Termination
import CompilationDatabase.Proofs.Utf8Texts
import CompilationDatabase.Proofs.Walk
import CompilationDatabase.Proofs.WholeMarkers
import CompilationDatabase.PropertyString
import CompilationDatabase.Solution.Basic
import CompilationDatabase.Solution.Line
import CompilationDatabase.Template
import CompilationDatabase.Text.Basic
import CompilationDatabase.Text.Case.Fold
import CompilationDatabase.Text.Case.Lower
import CompilationDatabase.Text.Case.Partner
import CompilationDatabase.Text.Case.Range
import CompilationDatabase.Text.Case.Upper
import CompilationDatabase.Text.Digit
import CompilationDatabase.Text.Literal
import CompilationDatabase.Text.Printable
import CompilationDatabase.Text.Utf8
import CompilationDatabase.Text.Word
import CompilationDatabase.Time.Stamp
import CompilationDatabase.Xml.CodePage.Basic
import CompilationDatabase.Xml.CodePage.Names
import CompilationDatabase.Xml.CodePage.Standard
import CompilationDatabase.Xml.CodePage.Terminal
import CompilationDatabase.Xml.CodePage.Windowed
import CompilationDatabase.Xml.Content
import CompilationDatabase.Xml.Doctype.Basic
import CompilationDatabase.Xml.Doctype.Declaration
import CompilationDatabase.Xml.Document
import CompilationDatabase.Xml.Encoding
import CompilationDatabase.Xml.Markup
import CompilationDatabase.Xml.Name
import CompilationDatabase.Xml.Namespace
import CompilationDatabase.Xml.Reference
import CompilationDatabase.Main
import CompilationDatabase.Proofs.Redefinitions
