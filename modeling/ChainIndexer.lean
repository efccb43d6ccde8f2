import ChainIndexer.Catalogue
import ChainIndexer.Config.Edit
import ChainIndexer.Main
import ChainIndexer.Proofs.FetchedHeights
import ChainIndexer.Proofs.InOrder
import ChainIndexer.Proofs.Messages
import ChainIndexer.Proofs.Ranges
import ChainIndexer.Proofs.Failure
import ChainIndexer.Proofs.Refinement
import ChainIndexer.Sim.Document.World
import ChainIndexer.Sim.Heights
import ChainIndexer.Proofs.Json.Rereading
import ChainIndexer.Proofs.NormalForm
import ChainIndexer.App.Question
import ChainIndexer.Proofs.CachedAnswers
import ChainIndexer.Proofs.Wakeups
import ChainIndexer.Proofs.ClockedPolls
import ChainIndexer.Proofs.StateMachine
import ChainIndexer.Proofs.Reach
import ChainIndexer.Proofs.Json.Integers
import ChainIndexer.Proofs.Splitting
import ChainIndexer.Proofs.GenesisCommands
import ChainIndexer.Proofs.Pages
import ChainIndexer.Proofs.Tasks
import ChainIndexer.Proofs.ExecutionLog
import ChainIndexer.Proofs.Registrations
import ChainIndexer.Proofs.Attribution
import ChainIndexer.Proofs.Base64Events
import ChainIndexer.Proofs.PageChains
import ChainIndexer.Proofs.GenesisPieces
import ChainIndexer.Proofs.NodeLists
import ChainIndexer.Proofs.CoinLists
import ChainIndexer.Proofs.TrackedHeight
import ChainIndexer.Proofs.Remaining
import ChainIndexer.Proofs.Backoff
import ChainIndexer.Proofs.CoinAmounts
