import VirtualFlightRadar.Cxx.Bytes
import VirtualFlightRadar.Cxx.Digits
import VirtualFlightRadar.Cxx.Double
import VirtualFlightRadar.Cxx.Number
import VirtualFlightRadar.Cxx.Decimal
import VirtualFlightRadar.Cxx.Printf
import VirtualFlightRadar.Cxx.Stream
import VirtualFlightRadar.Cxx.ReadBack
import VirtualFlightRadar.Object.TimeStamp
import VirtualFlightRadar.Object.Object
import VirtualFlightRadar.Object.GpsPosition
import VirtualFlightRadar.Object.Aircraft
import VirtualFlightRadar.Object.DateTimeImplBoost
import VirtualFlightRadar.Object.ClockOffset
import VirtualFlightRadar.Object.TimeOfDay
import VirtualFlightRadar.Util.Math
import VirtualFlightRadar.Util.Utility
import VirtualFlightRadar.Data.Processor
import VirtualFlightRadar.Cxx.Machine
import VirtualFlightRadar.Cxx.Refinement
import VirtualFlightRadar.Cxx.IndexMap
import VirtualFlightRadar.Data.AircraftData
import VirtualFlightRadar.Data.AircraftIndex
import VirtualFlightRadar.Data.AircraftAge
import VirtualFlightRadar.Data.AircraftSpec
import VirtualFlightRadar.Data.GpsProcessor
import VirtualFlightRadar.Data.GpsData
import VirtualFlightRadar.Data.AircraftMessage
import VirtualFlightRadar.Data.SensorData
import VirtualFlightRadar.VFRB
import VirtualFlightRadar.Cxx.Lines
import VirtualFlightRadar.Client.Connector
import VirtualFlightRadar.Cxx.Regex
import VirtualFlightRadar.Cxx.Captures
import VirtualFlightRadar.Cxx.Related
import VirtualFlightRadar.Feed.Parser
import VirtualFlightRadar.Feed.GpsParser
import VirtualFlightRadar.Feed.GpsForm
import VirtualFlightRadar.Feed.Direction
import VirtualFlightRadar.Feed.GpsLetterCase
import VirtualFlightRadar.Feed.GpsRoundTrip
import VirtualFlightRadar.Feed.AprsParser
import VirtualFlightRadar.Feed.LetterCase
import VirtualFlightRadar.Feed.AprsComment
import VirtualFlightRadar.Feed.AprsHeader
import VirtualFlightRadar.Feed.AprsRoundTrip
import VirtualFlightRadar.Feed.AprsClimb
import VirtualFlightRadar.Feed.Sentence
import VirtualFlightRadar.Data.Traffic
import VirtualFlightRadar.Feed.SbsParser
import VirtualFlightRadar.Feed.GpsMinutes
import VirtualFlightRadar.Feed.SbsSentence
import VirtualFlightRadar.Feed.SbsFields
import VirtualFlightRadar.Feed.AltitudeRange
import VirtualFlightRadar.Feed.SensorParser
import VirtualFlightRadar.Feed.AtmospherePressure
import VirtualFlightRadar.Data.SlotSpec
import VirtualFlightRadar.Data.AircraftOrder
import VirtualFlightRadar.Feed.AircraftFeed
import VirtualFlightRadar.Server.Server
import VirtualFlightRadar.Server.Handler
import VirtualFlightRadar.Server.Table
import VirtualFlightRadar.Server.Broadcast
import VirtualFlightRadar.Client.Client
import VirtualFlightRadar.Client.Pending
import VirtualFlightRadar.Client.Recovery
import VirtualFlightRadar.Client.Stopping
import VirtualFlightRadar.Cxx.UnorderedSet
import VirtualFlightRadar.Client.ClientManager
import VirtualFlightRadar.Client.Subscription
import VirtualFlightRadar.Feed.Feed
import VirtualFlightRadar.Feed.Process
import VirtualFlightRadar.Config.Configuration
import VirtualFlightRadar.Feed.FeedFactory
import VirtualFlightRadar.Client.Reader
import VirtualFlightRadar.Client.Lines
import VirtualFlightRadar.Client.Shutdown
import VirtualFlightRadar.System.System
import VirtualFlightRadar.System.Visits
import VirtualFlightRadar.System.GroundMode
import VirtualFlightRadar.System.Provenance
import VirtualFlightRadar.System.Verified
import VirtualFlightRadar.System.Delivery
import VirtualFlightRadar.System.Startup
import VirtualFlightRadar.System.Picture
import VirtualFlightRadar.System.Display
