import Mctpw.Base.Runs
import Mctpw.Base.Strings
import Mctpw.State
import Mctpw.Lookups
import Mctpw.Responder
import Mctpw.Events
import Mctpw.Histories
import Mctpw.Send
import Mctpw.Base.DeferredLog
import Mctpw.System
import Mctpw.EndpointSignals
import Mctpw.SignalOrder
import Mctpw.ChangeLog
import Mctpw.HandlerFaults
import Mctpw.Receive
import Mctpw.HotPlug
import Mctpw.LatestRoute
import Mctpw.Withdrawal
import Mctpw.Formation
import Mctpw.Identity
import Mctpw.Registration
import Mctpw.Base.Feed
import Mctpw.Network
import Mctpw.Tracking
import Mctpw.ScanPhases
import Mctpw.ScanRace
import Mctpw.Strangers
import Mctpw.Delivery
import Mctpw.RegistrationStatus
import Mctpw.SendReceive
import Mctpw.Selection
import Mctpw.VendorTypes
import Mctpw.Wrapper
import Mctpw.EndpointView
import Mctpw.PlainEids
import Mctpw.Muted
import Mctpw.OwnEids
import Mctpw.Base.Numerals
import Mctpw.PathEids
import Mctpw.VendorAccess
import Mctpw.Discovery
import Mctpw.Base.Ledger
import Mctpw.ScanWork
import Mctpw.Calls
import Mctpw.NetworkCache
import Mctpw.Addressees
import Mctpw.Base.Oblivious
import Mctpw.BusNumbers
import Mctpw.Isolation
import Mctpw.DirectStyle
import Mctpw.Rediscovery
import Mctpw.Overlap
import Mctpw.Base.Directory
import Mctpw.EndpointDirectory
import Mctpw.Operations
import Mctpw.Incremental
import Mctpw.MessageLog
import Mctpw.RegistrationLog
import Mctpw.SendLog
import Mctpw.Overlap
