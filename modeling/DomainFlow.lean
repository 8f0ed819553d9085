import DomainFlow.Reach
import DomainFlow.Proofs.Reachability
import DomainFlow.Codec.Graph
import DomainFlow.FileTree
import DomainFlow.Main
import DomainFlow.Proofs.Merge
import DomainFlow.Proofs.Verdicts
import DomainFlow.Proofs.Consistency
import DomainFlow.Proofs.Walk
import DomainFlow.Proofs.Exploration
import DomainFlow.Proofs.ChainGraph
import DomainFlow.Proofs.Propagation
import DomainFlow.Proofs.Rounds
import DomainFlow.Proofs.EntryPoints
import DomainFlow.Proofs.Redundancy
import DomainFlow.Proofs.CommandFlow
import DomainFlow.Proofs.Growth
import DomainFlow.Proofs.CallOrder
import DomainFlow.Proofs.DeclarationOrder
import DomainFlow.Proofs.Owners
import DomainFlow.Proofs.RuleTable
import DomainFlow.Proofs.Losses
import DomainFlow.Proofs.Contents
import DomainFlow.Proofs.Repetition
import DomainFlow.Proofs.KnownNodes
import DomainFlow.Proofs.Delimited
import DomainFlow.Proofs.BatchContent
import DomainFlow.Proofs.JsonText
import DomainFlow.Proofs.Forms
import DomainFlow.Proofs.StoreContent
import DomainFlow.Proofs.FactFiles
import DomainFlow.Proofs.Documents
import DomainFlow.Proofs.Places
import DomainFlow.Proofs.Directories
import DomainFlow.Proofs.LoadingOrder
import DomainFlow.Proofs.Writing
import DomainFlow.Proofs.Requests
