import VersionStamp.Main
import VersionStamp.Version.History
import VersionStamp.Proofs.PrintVersion
import VersionStamp.Proofs.ResolvingAloud
import VersionStamp.Proofs.StampReadBack
import VersionStamp.Proofs.StampReading
import VersionStamp.Proofs.ShowFile
import VersionStamp.Proofs.OneLogFile
import VersionStamp.Proofs.ResolvingCommands
import VersionStamp.Proofs.PositiveTimeout
import VersionStamp.Proofs.UnseenBranch
import VersionStamp.Proofs.UndescribedRelease
import VersionStamp.Proofs.ResolverHistory
import VersionStamp.Proofs.AppendOnlyLog
import VersionStamp.Proofs.OneSummary
import VersionStamp.Proofs.UnseenFiles
import VersionStamp.Proofs.TruthfulStamp
import VersionStamp.Proofs.OptionsAndVariables
import VersionStamp.Proofs.OneReleaseBit
import VersionStamp.Proofs.WhereOneStands
import VersionStamp.Proofs.JsonOutput
import VersionStamp.Proofs.UnusableSettings
import VersionStamp.Proofs.OwnVersion
import VersionStamp.Proofs.PropertiesGrammar
import VersionStamp.Proofs.PropertiesNormalForm
import VersionStamp.Proofs.PropertiesJoined
import VersionStamp.Proofs.GitVerdicts
import VersionStamp.Proofs.LocationText
import VersionStamp.Proofs.ExactWrites
import VersionStamp.Proofs.NearestCheckout
import VersionStamp.Proofs.CompactForm
import VersionStamp.Proofs.Placeholder
import VersionStamp.Proofs.PaddedSettings
import VersionStamp.Proofs.MadeDirectories
