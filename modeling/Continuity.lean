import Continuity.JsString
import Continuity.TextEncoder
import Continuity.Canonicalize
import Continuity.CanonicalText
import Continuity.CanonicalInjective
import Continuity.Crypto
import Continuity.HashTree
import Continuity.Types
import Continuity.Merkle
import Continuity.MerkleDigest
import Continuity.MerkleSound
import Continuity.MerkleComplete
import Continuity.OrderedMap
import Continuity.NonMembership
import Continuity.SparseDigest
import Continuity.SparseBuild
import Continuity.SparseComplete
import Continuity.SparseSound
import Continuity.Dates
import Continuity.Artifacts
import Continuity.Frames
import Continuity.Host
import Continuity.Signing
import Continuity.Identity
import Continuity.Policy
import Continuity.ProofBundle
import Continuity.VerifierContext
import Continuity.VerifierEvidence
import Continuity.VerifierScoring
import Continuity.VerifierGraph
import Continuity.Consistency
import Continuity.AgentDelegation
import Continuity.VerifierGates
import Continuity.Verifier
import Continuity.VerifierFrames
import Continuity.VerifierRun
import Continuity.VerifierSound
import Continuity.RevocationGate
import Continuity.RelayStore
import Continuity.RelaySystem
import Continuity.RelayLog
import Continuity.RelayRevocation
import Continuity.RelaySettlement
import Continuity.RelayProofs
import Continuity.RelayObjects
import Continuity.RelayNode
import Continuity.DelegatedAction
import Continuity.DelegationChain
import Continuity.DelegationGrant
import Continuity.DelegationScope
import Continuity.DelegationDisclosure
import Continuity.VerifierSigners
import Continuity.PolicyEnforced
import Continuity.ZkProof
import Continuity.SettlementProof
import Continuity.PolicyOrder
import Continuity.PolicyBlocks
import Continuity.PolicyGraph
import Continuity.PolicyGates
import Continuity.PolicyMonotone
import Continuity.BundleWhole
import Continuity.VerifierReturns
import Continuity.Commitments
import Continuity.KeyOrder
import Continuity.JsonParse
import Continuity.CodePoints
import Continuity.LanguageCores
import Continuity.CoreAgreement
import Continuity.SigningCoverage
import Continuity.Chains
import Continuity.CheckpointChain
import Continuity.RelayChain
import Continuity.Statements
import Continuity.DurableStore
import Continuity.ConsistencyLinks
import Continuity.RevocationRegistry
import Continuity.RevocationHistory
import Continuity.ChainRevocation
import Continuity.RevokedVerdict
import Continuity.DurableLogs
import Continuity.ReceiptProofs
import Continuity.DurableIdentity
import Continuity.DurableRevocation
import Continuity.DocumentStorage
import Continuity.FailedRequests
import Continuity.VerifierErrors
import Continuity.RevocationSigners
import Continuity.ActiveKeys
import Continuity.CheckpointRegistry
import Continuity.RegistryChain
import Continuity.CheckpointIdentity
import Continuity.Abi
import Continuity.CheckpointEncoding
import Continuity.CheckpointReadback
import Continuity.SettlementLog
import Continuity.Pratt
import Continuity.ScalarField
import Continuity.Circuits
import Continuity.AgeCircuit
import Continuity.AgeProof
import Continuity.SettlementPinning
import Continuity.PoseidonTrees
import Continuity.ReceiptCircuits
import Continuity.DisputeCircuit
import Continuity.GraphCircuit
import Continuity.RevocationCircuit
import Continuity.MembershipCircuits
import Continuity.Disclosure
import Continuity.DisclosureManifest
import Continuity.DisclosurePrivacy
import Continuity.ConsentAgreement
import Continuity.UnreadTimes
import Continuity.JsArithmetic
import Continuity.Reordering
import Continuity.EvidenceGraph
import Continuity.GraphOrder
import Continuity.Search
import Continuity.GraphArcs
import Continuity.GraphCommunities
import Continuity.GraphFeatures
import Continuity.SeedDistance
import Continuity.IgnoredEdges
import Continuity.SybilScore
import Continuity.GraphEdges
import Continuity.GraphHash
import Continuity.GraphCopies
import Continuity.AttestationAgreement
import Continuity.DriftReport
import Continuity.DriftRecomputation
import Continuity.ReferenceFeatures
import Continuity.SparseDense
import Continuity.NeighborProofs
import Continuity.ReferenceScore
import Continuity.AdverseLabel
import Continuity.Rounding
import Continuity.SybilLabel
import Continuity.CheckpointImport
import Continuity.VerifierLabel
import Continuity.AuditorNode
import Continuity.StreamReading
import Continuity.QueueConsumer
import Continuity.GuidedLoops
import Continuity.JsOrder
import Continuity.CommunityMerge
import Continuity.NegativeEdges
import Continuity.GraphComponents
import Continuity.CommunityRefinement
import Continuity.CalibratedScore
import Continuity.ScoreReturns
import Continuity.DelegationTerm
import Continuity.RankMass
import Continuity.Newman
import Continuity.ModularityScore
import Continuity.DateOrder
import Continuity.LastVerified
import Continuity.CadenceStability
import Continuity.CommunityPartition
import Continuity.RedactionTwice
import Continuity.ProximityFeature
import Continuity.WebHosts
import Continuity.GossipPeers
import Continuity.CheckpointTable
import Continuity.SegmentClosing
import Continuity.LogNumbering
import Continuity.CheckpointSubmitter
import Continuity.ProofLink
