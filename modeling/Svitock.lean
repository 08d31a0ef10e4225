import Svitock.Transition
import Svitock.ActorRuntime
import Svitock.RuntimeConservation
import Svitock.RuntimeInvariants
import Svitock.RuntimeOrder
import Svitock.RuntimeTermination
import Svitock.RuntimeLoad
import Svitock.RuntimeOwnership
import Svitock.RuntimeErasure
import Svitock.ByteString
import Svitock.ActorMessage
import Svitock.MessageDispatcher
import Svitock.DispatchExact
import Svitock.Actors
import Svitock.Server
import Svitock.ServerSteps
import Svitock.SessionRegistry
import Svitock.ServerHistory
import Svitock.CrashFreedom
import Svitock.StorageLeg
import Svitock.Isolation
import Svitock.Authenticity
import Svitock.SequentialRefinement
import Svitock.MessageOrder
import Svitock.RoundRobin
import Svitock.PostgresPool
import Svitock.Quiescence
import Svitock.Acknowledgement
import Svitock.HalfLoad
import Svitock.WriteQueue
import Svitock.UserStore
import Svitock.UserLogin
import Svitock.JwtService
import Svitock.HttpRouter
import Svitock.RouteGrammar
import Svitock.HttpSession
import Svitock.ServerLifecycle
import Svitock.TokenChain
import Svitock.ChatHistory
import Svitock.MessageReadBack
import Svitock.EnvelopeOwnership
import Svitock.UserSessions
import Svitock.UserRegistry
import Svitock.EventPayload
import Svitock.SignatureEncoding
import Svitock.Observation
import Svitock.RuntimeWaiting
import Svitock.MailboxWaiting
import Svitock.RuntimeShutdown
import Svitock.ServerShutdown
import Svitock.SessionTransport
import Svitock.SignalHandshake
import Svitock.Backend
import Svitock.Composition
import Svitock.Simulation
import Svitock.Application
import Svitock.AccountRaces
import Svitock.UserHandlers
import Svitock.UserConversation
import Svitock.UserDelivery
import Svitock.EventDto
