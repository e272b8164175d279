import CloudDesk.Main
import CloudDesk.Proofs.Desk.Agreement
import CloudDesk.Proofs.Schedule.Callers
import CloudDesk.Rehearsal
import CloudDesk.Schedule.Script
import CloudDesk.Proofs.Schedule.Lifecycle
import CloudDesk.Proofs.Billing.Spending
import CloudDesk.Proofs.Billing.Report
import CloudDesk.Proofs.Desk.Notebook
import CloudDesk.Proofs.Key.Ring
import CloudDesk.Proofs.Desk.Effects
import CloudDesk.Proofs.Desk.Platform
import CloudDesk.Proofs.Desk.Separation
import CloudDesk.Proofs.Desk.Refusal
import CloudDesk.Proofs.Infrastructure.Names
import CloudDesk.Proofs.Budget.Refusals
import CloudDesk.Proofs.Budget.History
import CloudDesk.Proofs.Key.Base64
import CloudDesk.Proofs.Key.Lifecycle
import CloudDesk.Proofs.Key.EmbeddedName
import CloudDesk.Proofs.Key.PublicKey
import CloudDesk.Proofs.Billing.Conservation
import CloudDesk.Proofs.Billing.Arrival
import CloudDesk.Proofs.Billing.CostReport
import CloudDesk.Proofs.Wire.Survival
import CloudDesk.Proofs.Desk.InstanceName
import CloudDesk.Proofs.Budget.Batch
import CloudDesk.Proofs.Taxonomy.Expansion
import CloudDesk.Proofs.Schedule.Rhythm
import CloudDesk.Proofs.Startup
import CloudDesk.Proofs.Infrastructure.Accounts
import CloudDesk.Proofs.Billing.RawKinds
import CloudDesk.Proofs.Billing.Target
import CloudDesk.Proofs.Taxonomy.Suggestion
