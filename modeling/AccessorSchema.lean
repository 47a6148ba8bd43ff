import AccessorSchema.Activity.CrashReport
import AccessorSchema.File.Tree
import AccessorSchema.Main
import AccessorSchema.Policy.Recording
import AccessorSchema.Proofs.AccessorName
import AccessorSchema.Proofs.Conflict
import AccessorSchema.Proofs.Grouping
import AccessorSchema.Proofs.Settlement
import AccessorSchema.Proofs.Accounting
import AccessorSchema.Proofs.BoundProperty
import AccessorSchema.Proofs.Coverage
import AccessorSchema.Proofs.GetterShape
import AccessorSchema.Proofs.PrimaryGetter
import AccessorSchema.Proofs.LetterCase
import AccessorSchema.Proofs.PropertyNames
import AccessorSchema.Proofs.Reachability
import AccessorSchema.Proofs.Reporting
import AccessorSchema.Proofs.CollectedDiagnostics
import AccessorSchema.Proofs.ClosedReport
import AccessorSchema.Proofs.Termination
import AccessorSchema.Proofs.BindingDecision
import AccessorSchema.Proofs.PropertyContent
import AccessorSchema.Proofs.Decision
import AccessorSchema.Proofs.HandledMethods
import AccessorSchema.Proofs.PropertyOrder
import AccessorSchema.Proofs.GetterReports
import AccessorSchema.Proofs.WellDeclared
import AccessorSchema.Proofs.Subtyping
import AccessorSchema.Proofs.Specificity
import AccessorSchema.Proofs.Locality
import AccessorSchema.Proofs.Impartial
import AccessorSchema.Proofs.Interleaving
import AccessorSchema.Proofs.DeclarationOrder
import AccessorSchema.Proofs.BindingCalls
import AccessorSchema.Proofs.HookProtocol
import AccessorSchema.Proofs.RootOrder
import AccessorSchema.Proofs.OwnDeclarations
import AccessorSchema.Proofs.SetterBinding
import AccessorSchema.Proofs.JsonText
import AccessorSchema.Proofs.RoundTrip
import AccessorSchema.Proofs.CoverageReport
import AccessorSchema.Proofs.Confinement
import AccessorSchema.Proofs.StoreGrowth
import AccessorSchema.Proofs.Distance
import AccessorSchema.Proofs.MethodCollection
import AccessorSchema.Proofs.Levels
import AccessorSchema.Proofs.DerivedFirst
import AccessorSchema.Proofs.SupertypeSearch
import AccessorSchema.Proofs.SignatureClasses
import AccessorSchema.Proofs.NamingRule
import AccessorSchema.Proofs.FirstDeclarations
import AccessorSchema.Proofs.NestedGuards
import AccessorSchema.Proofs.GroupCollection
import AccessorSchema.Proofs.MethodOrder
import AccessorSchema.Proofs.Decapitalization
import AccessorSchema.Proofs.NameReading
