import Tg2Sip.Lib.Run
import Tg2Sip.Lib.Cyclic
import Tg2Sip.Lib.Machine
import Tg2Sip.Lib.Maps
import Tg2Sip.Lib.Chart
import Tg2Sip.Lib.Throwing
import Tg2Sip.Lib.Memo
import Tg2Sip.Lib.Lines
import Tg2Sip.Lib.Promise
import Tg2Sip.Lib.History
import Tg2Sip.Lib.Pieces
import Tg2Sip.TdApi
import Tg2Sip.Text
import Tg2Sip.SipClient
import Tg2Sip.NtgCalls
import Tg2Sip.Context
import Tg2Sip.Actions
import Tg2Sip.StateMachine
import Tg2Sip.Gateway
import Tg2Sip.System
import Tg2Sip.Proofs.Transitions
import Tg2Sip.Proofs.Effects
import Tg2Sip.Proofs.ActionEffects
import Tg2Sip.Proofs.Routing
import Tg2Sip.Proofs.Steps
import Tg2Sip.Proofs.Bridges
import Tg2Sip.Proofs.SipTraffic
import Tg2Sip.Proofs.Agreement
import Tg2Sip.Proofs.Containment
import Tg2Sip.Proofs.CallTable
import Tg2Sip.Proofs.Ownership
import Tg2Sip.Proofs.Legs
import Tg2Sip.Proofs.Identity
import Tg2Sip.Proofs.Revival
import Tg2Sip.RingBuffer
import Tg2Sip.Proofs.Fifo
import Tg2Sip.Proofs.RingRaces
import Tg2Sip.Proofs.Frames
import Tg2Sip.TgClient
import Tg2Sip.Proofs.Correlation
import Tg2Sip.Authorization
import Tg2Sip.Proofs.SignOn
import Tg2Sip.Proofs.Contacts
import Tg2Sip.Proofs.Dialing
import Tg2Sip.Proofs.FloodBlock
import Tg2Sip.Proofs.Dtmf
import Tg2Sip.Proofs.Isolation
import Tg2Sip.Proofs.Lifecycle
import Tg2Sip.Proofs.Answering
import Tg2Sip.Sessions
import Tg2Sip.Proofs.Teardown
import Tg2Sip.Proofs.Independence
import Tg2Sip.Proofs.Wiring
import Tg2Sip.Proofs.Signaling
import Tg2Sip.Proofs.Backoff
import Tg2Sip.Proofs.Extensions
import Tg2Sip.Proofs.Outcomes
import Tg2Sip.Proofs.Directory
import Tg2Sip.Proofs.Headers
import Tg2Sip.Proofs.Shutdown
import Tg2Sip.Proofs.Inbound
import Tg2Sip.IniReader
import Tg2Sip.IniDocument
import Tg2Sip.Proofs.IniLines
import Tg2Sip.Proofs.Documents
import Tg2Sip.Proofs.IniTexts
import Tg2Sip.Proofs.IniNumbers
import Tg2Sip.Configuration
import Tg2Sip.Proofs.Startup
import Tg2Sip.AudioBridge
import Tg2Sip.Proofs.AudioPath
import Tg2Sip.Proofs.Media
import Tg2Sip.Proofs.AudioThreads
import Tg2Sip.Proofs.AudioProgress
import Tg2Sip.GenDb
import Tg2Sip.Proofs.SigningOn
import Tg2Sip.Proofs.Fairness
