import CampaignDesk.Journal.Message
import CampaignDesk.Main
import CampaignDesk.Proofs.Campaign.Cleanup
import CampaignDesk.Proofs.Campaign.Delivery
import CampaignDesk.Proofs.Campaign.Leftovers
import CampaignDesk.Proofs.Command.Jobs
import CampaignDesk.Proofs.Command.Recovery
import CampaignDesk.Proofs.Console.Literal
import CampaignDesk.Proofs.Desk.Background
import CampaignDesk.Proofs.Desk.Saving
import CampaignDesk.Proofs.Dispatch.Identity
import CampaignDesk.Proofs.Dispatch.Modes
import CampaignDesk.Proofs.Engine.History
import CampaignDesk.Proofs.Journal.Reconfiguring
import CampaignDesk.Proofs.Journal.Structured
import CampaignDesk.Proofs.Order.Attachments
import CampaignDesk.Proofs.Order.Fields
import CampaignDesk.Proofs.Order.Resubmission
import CampaignDesk.Proofs.Order.Types
import CampaignDesk.Proofs.Order.Unset
import CampaignDesk.Proofs.Scheduler.Exclusive
import CampaignDesk.Proofs.Scheduler.Foreground
import CampaignDesk.Proofs.Scheduler.Listeners
import CampaignDesk.Proofs.Session.OneMode
import CampaignDesk.Proofs.Session.Operations
import CampaignDesk.Proofs.Settings.Reading
import CampaignDesk.Proofs.TempFiles.Guarantee
import CampaignDesk.Proofs.TempFiles.Writing
