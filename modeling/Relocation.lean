import Relocation.Shipment.Form
import Relocation.Schedule
import Relocation.Proofs.Agreement
import Relocation.Proofs.Answers
import Relocation.Proofs.Awardee
import Relocation.Proofs.Awards
import Relocation.Proofs.BlindWrites
import Relocation.Proofs.Changes
import Relocation.Proofs.CommitOutcomes
import Relocation.Proofs.Constraints
import Relocation.Proofs.Grouping
import Relocation.Proofs.Failing
import Relocation.Proofs.Finality
import Relocation.Proofs.Histories
import Relocation.Proofs.OneAnswer
import Relocation.Proofs.OneOffer
import Relocation.Proofs.Overwrites
import Relocation.Proofs.Readers
import Relocation.Proofs.Walks
import Relocation.Proofs.WalkOutcomes
import Relocation.Proofs.Retracing
import Relocation.Proofs.Pace
import Relocation.Proofs.Windows
import Relocation.Proofs.Holidays
import Relocation.Proofs.DateLists
import Relocation.Proofs.HolidayDates
import Relocation.Proofs.Observance
import Relocation.Proofs.OpenDays
import Relocation.Proofs.Bookings
import Relocation.Proofs.Estimates
import Relocation.Proofs.TransitDays
import Relocation.Proofs.Lifecycle
import Relocation.Proofs.StandardMoves
import Relocation.Proofs.Sessions
import Relocation.Proofs.Validity
import Relocation.Proofs.OwnWrites
import Relocation.Proofs.AgentIds
import Relocation.Proofs.Growth
import Relocation.Proofs.Numerals
import Relocation.Proofs.Forms
import Relocation.Proofs.JsonTexts
import Relocation.Proofs.RecordForms
import Relocation.Proofs.Records
import Relocation.Proofs.ShipmentTexts
import Relocation.Proofs.Omissions
import Relocation.Proofs.SettingsForms
