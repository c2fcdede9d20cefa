import Storefront.CommandLine.Session
import Storefront.CommandLine.Usage
import Storefront.Guard.Builtin
import Storefront.Guard.Conjunction
import Storefront.Main
import Storefront.Proofs.Complements
import Storefront.Proofs.Conjuncts
import Storefront.Proofs.Declarations
import Storefront.Proofs.DirectoryText
import Storefront.Proofs.DocumentText
import Storefront.Proofs.Drafts
import Storefront.Proofs.Enclosure
import Storefront.Proofs.Expansion
import Storefront.Proofs.FrontEnd
import Storefront.Proofs.GuardRemoval
import Storefront.Proofs.InventoryScan
import Storefront.Proofs.Marks
import Storefront.Proofs.Meaning
import Storefront.Proofs.Method
import Storefront.Proofs.Multiplicity
import Storefront.Proofs.Names
import Storefront.Proofs.Numerals
import Storefront.Proofs.PatternText
import Storefront.Proofs.Precedence
import Storefront.Proofs.References
import Storefront.Proofs.ReportText
import Storefront.Proofs.Sections
import Storefront.Proofs.Serialized
import Storefront.Proofs.SettingsEntries
import Storefront.Proofs.SwitchUnfolding
import Storefront.Proofs.TableOrder
import Storefront.Proofs.UnrollLimit
import Storefront.Proofs.Yields
import Storefront.Report.Format
import Storefront.Report.Listing
import Storefront.Survey.Dispatch
import Storefront.Survey.SettingsFile
import Storefront.Yaml.Reading
