import Eisenberg.Mqtt.PacketFraming
import Eisenberg.Mqtt.Stream
import Eisenberg.Mqtt.Delivery
import Eisenberg.Coordinator.Reconnect
import Eisenberg.Coordinator.ReconnectSafety
import Eisenberg.Coordinator.SocketDrop
import Eisenberg.Coordinator.ListenLoop
import Eisenberg.Framework.Dict
import Eisenberg.Framework.LastWriter
import Eisenberg.Coordinator.DeviceStates
import Eisenberg.Coordinator.DeviceRefresh
import Eisenberg.Framework.Coroutine
import Eisenberg.Framework.Table
import Eisenberg.Values.Locations
import Eisenberg.Coordinator.Session
import Eisenberg.Coordinator.DeadSession
import Eisenberg.Coordinator.LoginAttempts
import Eisenberg.Coordinator.Modes
import Eisenberg.Coordinator.SetActiveMode
import Eisenberg.Coordinator.ModeSelect
import Eisenberg.Coordinator.ModeAgreement
import Eisenberg.Coordinator.ModeConvergence
import Eisenberg.Camera.LiveView
import Eisenberg.Camera.StreamSource
import Eisenberg.Camera.RetiredUrl
import Eisenberg.Camera.StreamSession
import Eisenberg.Coordinator.SseSupplement
import Eisenberg.Coordinator.SseDelivery
import Eisenberg.Client.Http
import Eisenberg.Client.Models
import Eisenberg.Client.Login
import Eisenberg.Client.Commands
import Eisenberg.Client.Runs
import Eisenberg.Client.FailedLogin
import Eisenberg.Client.Shapes
import Eisenberg.Client.Classification
import Eisenberg.Client.ErrorBodies
import Eisenberg.Coordinator.Operations
import Eisenberg.Coordinator.BlockedCalls
import Eisenberg.Framework.Incremental
import Eisenberg.Sse.Parser
import Eisenberg.Coordinator.MotionFeed
import Eisenberg.Flow.TrustCookie
import Eisenberg.Flow.CookieScope
import Eisenberg.Flow.ConfigFlow
import Eisenberg.Flow.Answers
import Eisenberg.Coordinator.HealthTick
import Eisenberg.Coordinator.Setup
import Eisenberg.Coordinator.FailedSetup
import Eisenberg.Camera.ImageCache
import Eisenberg.Mqtt.Closing
import Eisenberg.Coordinator.OneSocket
import Eisenberg.Coordinator.Shutdown
import Eisenberg.Mqtt.PacketStream
import Eisenberg.Framework.Reader
import Eisenberg.Mqtt.Grammar
import Eisenberg.Mqtt.Publish
import Eisenberg.Coordinator.Subscriptions
import Eisenberg.Client.Discovery
import Eisenberg.Client.CommandTargets
import Eisenberg.Entities.UniqueIds
import Eisenberg.Sse.RoundTrip
import Eisenberg.Client.LocationMerge
import Eisenberg.Coordinator.RelevantLocations
import Eisenberg.Client.RateLimit
import Eisenberg.Coordinator.ModeOptions
import Eisenberg.Coordinator.FailedSet
import Eisenberg.Coordinator.ArchiveFailures
import Eisenberg.Framework.EarlyExit
import Eisenberg.Sse.Reconnect
import Eisenberg.Coordinator.MediaPrune
import Eisenberg.Entities.DetectionSensor
import Eisenberg.Coordinator.BaseStations
import Eisenberg.Coordinator.ImageSeed
import Eisenberg.Coordinator.LiveState
import Eisenberg.Framework.Display
import Eisenberg.Coordinator.LiveReports
import Eisenberg.Entities.Brightness
import Eisenberg.Entities.Coherence
import Eisenberg.Entities.Spotlight
import Eisenberg.Client.Requests
import Eisenberg.Client.Silence
import Eisenberg.Client.Tokens
import Eisenberg.Flow.Dialogue
import Eisenberg.Mqtt.Keepalive
import Eisenberg.Mqtt.KeepaliveTimes
import Eisenberg.Entities.SseWire
