import PageTemplates.Event.Statement
import PageTemplates.Main
import PageTemplates.PageCommand
import PageTemplates.Proofs.Nesting
import PageTemplates.Proofs.Origins
import PageTemplates.Proofs.Registrations
import PageTemplates.Proofs.SubstitutionSteps
import PageTemplates.Proofs.ScanInvariant
import PageTemplates.Proofs.DispatchTurns
import PageTemplates.Proofs.StrippedTemplates
import PageTemplates.Proofs.RowJoins
import PageTemplates.Proofs.Fallback
import PageTemplates.Proofs.Differences
import PageTemplates.Proofs.LateDeclarations
import PageTemplates.Proofs.ParseInvariants
import PageTemplates.Proofs.RedeclaredOrigins
import PageTemplates.Proofs.RunTraces
import PageTemplates.Proofs.Rolls
import PageTemplates.Proofs.RegistrationSpans
import PageTemplates.Proofs.DroppedListeners
import PageTemplates.Proofs.PureListeners
import PageTemplates.Proofs.Expansion
import PageTemplates.Proofs.DivisionInverse
import PageTemplates.Proofs.Documents
import PageTemplates.Proofs.Preorder
import PageTemplates.Proofs.Leftovers
import PageTemplates.Proofs.RootConfinement
import PageTemplates.Proofs.ListingReach
import PageTemplates.Proofs.Slots
import PageTemplates.Proofs.FailedParses
import PageTemplates.Proofs.NotesIgnored
import PageTemplates.Proofs.FileLoads
import PageTemplates.Proofs.TracingListeners
import PageTemplates.Proofs.FileWrites
import PageTemplates.Proofs.RenderingOutput
import PageTemplates.Proofs.StoredResults
import PageTemplates.Proofs.AcceptedResults
import PageTemplates.Proofs.SettingsSource
import PageTemplates.Proofs.TracedRendering
import PageTemplates.Proofs.WatchedLoads
import PageTemplates.Proofs.OriginWalk
import PageTemplates.Proofs.Rows
import PageTemplates.Proofs.TableAgreement
import PageTemplates.Proofs.LoaderSteps
import PageTemplates.Proofs.ListingDescent
import PageTemplates.Proofs.QueueContents
import PageTemplates.Proofs.MarkerSearch
import PageTemplates.Proofs.ListingReaders
import PageTemplates.Proofs.BlockCutter
import PageTemplates.Proofs.BracePairs
import PageTemplates.Proofs.PlaceholderNames
