import StickyRouting.Connectivity.Tally
import StickyRouting.Config.Reader
import StickyRouting.Balancer
import StickyRouting.Scenario.TableRun
import StickyRouting.Scenario.PoolRun
import StickyRouting.Scenario.BalancerRun
import StickyRouting.Proofs.Run
import StickyRouting.Proofs.Moves
import StickyRouting.Proofs.VisibleActions
import StickyRouting.Proofs.Settings
import StickyRouting.Proofs.Snapshots
import StickyRouting.Proofs.Effect
import StickyRouting.Proofs.Census
import StickyRouting.Proofs.Bindings
import StickyRouting.Proofs.Publication
import StickyRouting.Proofs.BindingCounts
import StickyRouting.Proofs.Pairing
import StickyRouting.Proofs.Tracking
import StickyRouting.Proofs.Growth
import StickyRouting.Proofs.Requests
import StickyRouting.Proofs.Saturation
import StickyRouting.Proofs.HeldPicks
import StickyRouting.Proofs.DeskRuns
import StickyRouting.Proofs.StreamCounts
import StickyRouting.Proofs.Calls
import StickyRouting.Proofs.Finality
import StickyRouting.Proofs.Reordering
import StickyRouting.Proofs.Exchange
import StickyRouting.Proofs.Turns
import StickyRouting.Proofs.Acceptance
import StickyRouting.Proofs.Replies
import StickyRouting.Proofs.Linearization
import StickyRouting.Proofs.Membership
import StickyRouting.Proofs.StreamLimit
import StickyRouting.Proofs.CurrentAddresses
import StickyRouting.Proofs.ConnectCounts
import StickyRouting.Proofs.HandleCalls
import StickyRouting.Proofs.Decision
import StickyRouting.Proofs.Refusal
import StickyRouting.Proofs.DistinctPublications
import StickyRouting.Proofs.Filling
import StickyRouting.Proofs.EvenLoads
import StickyRouting.Proofs.RequestLedger
import StickyRouting.Proofs.WaitingLine
import StickyRouting.Proofs.DirectCalls
import StickyRouting.Proofs.Counters
import StickyRouting.Proofs.Reading.Grammar
import StickyRouting.Proofs.Reading.Strings
import StickyRouting.Proofs.Reading.Numbers
import StickyRouting.Proofs.Reading.Values
import StickyRouting.Proofs.Reading.Objects
import StickyRouting.Proofs.Reading.Arrays
import StickyRouting.Proofs.Reading.Configurations
