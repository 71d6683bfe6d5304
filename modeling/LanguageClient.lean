import LanguageClient.Main
import LanguageClient.Rehearsal
import LanguageClient.Server.Connection
import LanguageClient.Proofs.ClientRun
import LanguageClient.Proofs.Views
import LanguageClient.Proofs.LastArrival
import LanguageClient.Proofs.Panels
import LanguageClient.Proofs.PanelInvariant
import LanguageClient.Proofs.ClosedPanels
import LanguageClient.Proofs.ShownPanels
import LanguageClient.Proofs.Fetch
import LanguageClient.Proofs.PrintedTree
import LanguageClient.Proofs.LiveViews
import LanguageClient.Proofs.DisposedViews
import LanguageClient.Proofs.Catalog
import LanguageClient.Proofs.DroppedAnswers
import LanguageClient.Proofs.FailedAnswers
import LanguageClient.Proofs.PageRows
import LanguageClient.Proofs.PanelRegistry
import LanguageClient.Proofs.DocumentVersions
import LanguageClient.Proofs.Conversations
import LanguageClient.Proofs.ProtocolDiscipline
import LanguageClient.Proofs.DocumentNotices
import LanguageClient.Proofs.WidgetReplica
import LanguageClient.Proofs.Courses
import LanguageClient.Proofs.ServerPushes
import LanguageClient.Proofs.CommandOutcomes
import LanguageClient.Proofs.Refreshes
import LanguageClient.Proofs.AdapterQuestions
import LanguageClient.Proofs.PanelContents
import LanguageClient.Proofs.Deactivation
import LanguageClient.Proofs.RevealedChains
import LanguageClient.Proofs.RepeatedShows
import LanguageClient.Proofs.SettingsDeletion
import LanguageClient.Proofs.Walks
import LanguageClient.Proofs.PlaceUrls
import LanguageClient.Proofs.FileIdentity
import LanguageClient.Proofs.DiskChanges
import LanguageClient.Proofs.FirstSettings
import LanguageClient.Proofs.PreviewDelivery
import LanguageClient.Proofs.AdapterAddresses
import LanguageClient.Proofs.PrintedLines
import LanguageClient.Proofs.ChosenPanes
import LanguageClient.Proofs.ResolvedConfigurations
import LanguageClient.Proofs.ShownPositions
