import BroadcastChat.Message.Json
import BroadcastChat.Main
import BroadcastChat.Proofs.Actions
import BroadcastChat.Proofs.Trace
import BroadcastChat.Proofs.Books
import BroadcastChat.Proofs.Bookkeeping
import BroadcastChat.Proofs.Conduct
import BroadcastChat.Proofs.Programs
import BroadcastChat.Proofs.FanOut
import BroadcastChat.Proofs.Kinds
import BroadcastChat.Proofs.Runs
import BroadcastChat.Proofs.Usage
import BroadcastChat.Proofs.Spelling
import BroadcastChat.Proofs.Readback
import BroadcastChat.Proofs.Outbound
import BroadcastChat.Proofs.Bystanders
import BroadcastChat.Proofs.Stage
import BroadcastChat.Proofs.Moments
import BroadcastChat.Proofs.Delivery
import BroadcastChat.Proofs.Coherence
import BroadcastChat.Proofs.Accounts
import BroadcastChat.Proofs.Shutdown
import BroadcastChat.Proofs.Supersession
import BroadcastChat.Proofs.Deeds
import BroadcastChat.Proofs.Inflow
import BroadcastChat.Proofs.Holders
import BroadcastChat.Proofs.Waits
import BroadcastChat.Proofs.Stillness
import BroadcastChat.Proofs.Life
import BroadcastChat.Proofs.Machine
import BroadcastChat.Proofs.Rounds
import BroadcastChat.Proofs.Passage
import BroadcastChat.Proofs.Watch
import BroadcastChat.Proofs.Tracks
import BroadcastChat.Proofs.SenderOrder
import BroadcastChat.Proofs.Untimed
import BroadcastChat.Proofs.Elsewhere
import BroadcastChat.Proofs.Poise
import BroadcastChat.Proofs.Settling
import BroadcastChat.Proofs.Mirror
import BroadcastChat.Proofs.Lockstep
import BroadcastChat.Proofs.Twins
import BroadcastChat.Proofs.Cues
import BroadcastChat.Proofs.Isolation
import BroadcastChat.Proofs.Distribution
import BroadcastChat.Proofs.Submission
import BroadcastChat.Proofs.Gateway
import BroadcastChat.Proofs.Provenance
import BroadcastChat.Proofs.Wordings
import BroadcastChat.Proofs.Checked
import BroadcastChat.Proofs.Queries
import BroadcastChat.Proofs.Uptake
import BroadcastChat.Proofs.Entry
import BroadcastChat.Proofs.Script
import BroadcastChat.Proofs.Utterance
import BroadcastChat.Proofs.Sockets
import BroadcastChat.Proofs.Flushing
import BroadcastChat.Proofs.Conversation
import BroadcastChat.Proofs.Lexemes
import BroadcastChat.Proofs.Grammar
import BroadcastChat.Proofs.Exactness
import BroadcastChat.Proofs.Documents
import BroadcastChat.Proofs.Replies
import BroadcastChat.Proofs.OverHttp
import BroadcastChat.Proofs.Agreement
import BroadcastChat.Proofs.Unheard
import BroadcastChat.Proofs.Noise
import BroadcastChat.Proofs.TimeOfDay
import BroadcastChat.Proofs.Histories
import BroadcastChat.Proofs.Handover
import BroadcastChat.Proofs.Independence
import BroadcastChat.Proofs.ListenUrl
