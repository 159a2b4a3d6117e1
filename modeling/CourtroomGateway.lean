import CourtroomGateway.Main
import CourtroomGateway.Pages
import CourtroomGateway.Table.Lemmas
import CourtroomGateway.Proofs.Commands.Checks
import CourtroomGateway.Proofs.Commands.Mail
import CourtroomGateway.Proofs.Commands.Requests
import CourtroomGateway.Proofs.Commands.Tallies
import CourtroomGateway.Proofs.Commands.Turns
import CourtroomGateway.Proofs.Config.Areas
import CourtroomGateway.Proofs.Config.Validation
import CourtroomGateway.Proofs.Court.Delivery
import CourtroomGateway.Proofs.Court.Placement
import CourtroomGateway.Proofs.Court.Presence
import CourtroomGateway.Proofs.Court.Publishing
import CourtroomGateway.Proofs.Court.Snapshots
import CourtroomGateway.Proofs.Flood.Budget
import CourtroomGateway.Proofs.Flood.Steady
import CourtroomGateway.Proofs.Flood.Words
import CourtroomGateway.Proofs.Floor.Delays
import CourtroomGateway.Proofs.Floor.Order
import CourtroomGateway.Proofs.Floor.Runs
import CourtroomGateway.Proofs.Floor.Voices
import CourtroomGateway.Proofs.Gateway.Accounts
import CourtroomGateway.Proofs.Gateway.Admissions
import CourtroomGateway.Proofs.Gateway.Agreement
import CourtroomGateway.Proofs.Gateway.Casting
import CourtroomGateway.Proofs.Gateway.Choice
import CourtroomGateway.Proofs.Gateway.Chunks
import CourtroomGateway.Proofs.Gateway.Coherence
import CourtroomGateway.Proofs.Gateway.Commuting
import CourtroomGateway.Proofs.Gateway.Companions
import CourtroomGateway.Proofs.Gateway.Deliveries
import CourtroomGateway.Proofs.Gateway.Exclusive
import CourtroomGateway.Proofs.Gateway.Failures
import CourtroomGateway.Proofs.Gateway.Handling
import CourtroomGateway.Proofs.Gateway.Heard
import CourtroomGateway.Proofs.Gateway.History
import CourtroomGateway.Proofs.Gateway.Keepalive
import CourtroomGateway.Proofs.Gateway.Listings
import CourtroomGateway.Proofs.Gateway.MetricsPage
import CourtroomGateway.Proofs.Gateway.Ownership
import CourtroomGateway.Proofs.Gateway.Reciprocity
import CourtroomGateway.Proofs.Gateway.Refusals
import CourtroomGateway.Proofs.Gateway.Signatures
import CourtroomGateway.Proofs.Gateway.Speeches
import CourtroomGateway.Proofs.Gateway.Steps
import CourtroomGateway.Proofs.Gateway.Survival
import CourtroomGateway.Proofs.Gateway.Talk
import CourtroomGateway.Proofs.Gateway.Wires
import CourtroomGateway.Proofs.Metrics.Entries
import CourtroomGateway.Proofs.Metrics.Families
import CourtroomGateway.Proofs.Metrics.Histograms
import CourtroomGateway.Proofs.Metrics.Labels
import CourtroomGateway.Proofs.Metrics.Page
import CourtroomGateway.Proofs.Metrics.Samples
import CourtroomGateway.Proofs.Metrics.Series
import CourtroomGateway.Proofs.Metrics.Totals
import CourtroomGateway.Proofs.Speech.Columns
import CourtroomGateway.Proofs.Speech.Decoding
import CourtroomGateway.Proofs.Speech.Pairing
import CourtroomGateway.Proofs.Speech.Rendering
import CourtroomGateway.Proofs.Speech.Texts
import CourtroomGateway.Proofs.Speech.Values
import CourtroomGateway.Proofs.Text.Integer
import CourtroomGateway.Proofs.Text.Lenient
import CourtroomGateway.Proofs.Text.Recovery
import CourtroomGateway.Proofs.Text.Split
import CourtroomGateway.Proofs.Text.Utf8
import CourtroomGateway.Proofs.Wire.Arguments
import CourtroomGateway.Proofs.Wire.Escape
import CourtroomGateway.Proofs.Wire.Framing
import CourtroomGateway.Proofs.Wire.FreeText
import CourtroomGateway.Proofs.Wire.Messages
import CourtroomGateway.Proofs.Wire.Terminator
import CourtroomGateway.Proofs.Wire.Transmission
