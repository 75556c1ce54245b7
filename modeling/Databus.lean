import Databus.Bus.Describe
import Databus.Bus.Entities
import Databus.Bus.Sleeping
import Databus.Bus.Waiting
import Databus.Middleware.Calls
import Databus.Middleware.Describe
import Databus.Middleware.Wait
import Databus.Proofs.BusRequests
import Databus.Proofs.DeliveryFrame
import Databus.Proofs.DiscoveryReaders
import Databus.Proofs.GraphAgreement
import Databus.Proofs.RecordCorrespondence
import Databus.Proofs.LedgerRefinement
import Databus.Proofs.EndpointCount
import Databus.Proofs.SlotGenerations
import Databus.Proofs.WriterRegistration
import Databus.Proofs.WaitReadiness
import Databus.Bus.Registry
import Databus.Proofs.EntityOwnership
import Databus.Proofs.DomainStates
import Databus.Proofs.DomainOwnership
import Databus.Proofs.GraphGuards
import Databus.Proofs.CallRequests
import Databus.Proofs.GuardRaising
import Databus.Proofs.GuardReporting
import Databus.Proofs.GraphVersion
import Databus.Proofs.NodeGraphVersion
import Databus.Proofs.GuardNotices
import Databus.Proofs.RefusedCalls
import Databus.Proofs.CallerGuards
import Databus.Proofs.TableRestoration
import Databus.Proofs.FailureRollback
import Databus.Proofs.MissedTriggers
import Databus.Proofs.RefusedCreation
import Databus.Proofs.WokenWaits
import Databus.Proofs.SampleRetention
import Databus.Proofs.DeletionAnswers
import Databus.Proofs.TopicSource
import Databus.Proofs.DeliveryLog
import Databus.Proofs.DeliveryOrder
import Databus.Proofs.DestructionFrame
import Databus.Proofs.NodeGuardPairing
import Databus.Proofs.WireFormat
import Databus.Proofs.GraphRecordMap
import Databus.Proofs.QueueTrace
import Databus.Proofs.WriteDeliveries
import Databus.Proofs.ConditionSignals
import Databus.Proofs.WaitSetHooks
import Databus.Proofs.WaitAdmission
import Databus.Proofs.ListenerDraining
import Databus.Proofs.AnnouncementOrder
import Databus.Proofs.WaitDeadlines
import Databus.Proofs.SampleSource
import Databus.Proofs.PublisherGids
import Databus.Proofs.LastError
import Databus.Proofs.EnvironmentSettings
