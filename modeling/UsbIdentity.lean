import UsbIdentity.Main
import UsbIdentity.Files.Listing
import UsbIdentity.Proofs.Agreement
import UsbIdentity.Proofs.Atomicity
import UsbIdentity.Proofs.FailClosed
import UsbIdentity.Proofs.Observation
import UsbIdentity.Proofs.Offers
import UsbIdentity.Proofs.PolicyReplay
import UsbIdentity.Proofs.RuleText
import UsbIdentity.Proofs.LogAndRecord
import UsbIdentity.Proofs.StableIdentity
import UsbIdentity.Proofs.JsonTexts
import UsbIdentity.Proofs.SchemaRecords
import UsbIdentity.Proofs.RuleJson
import UsbIdentity.Proofs.NormalRules
import UsbIdentity.Proofs.SeparateIdentities
import UsbIdentity.Proofs.PoisonedLock
import UsbIdentity.Proofs.CommandLine
import UsbIdentity.Proofs.RowsOfDescriptors
import UsbIdentity.Proofs.InterfaceGrammar
import UsbIdentity.Proofs.LastWrites
import UsbIdentity.Proofs.LooserBounds
import UsbIdentity.Proofs.EmittedIds
import UsbIdentity.Proofs.InterfaceCoverage
import UsbIdentity.Proofs.SchemaRefusals
import UsbIdentity.Proofs.Settings
import UsbIdentity.Proofs.DescriptorJson
import UsbIdentity.Proofs.TraceJson
import UsbIdentity.Proofs.ListsByKind
import UsbIdentity.Proofs.QuotedTexts
