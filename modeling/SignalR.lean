import SignalR.Go.Bytes
import SignalR.Go.Reflect
import SignalR.Protocol.Messages
import SignalR.JSONHubProtocol.ParseMessage
import SignalR.Theorems.FrameReader
import SignalR.HubConnection.Receive
import SignalR.Theorems.Receive
import SignalR.JSONHubProtocol.WriteMessage
import SignalR.Theorems.WriteMessage
import SignalR.StreamClient
import SignalR.Theorems.ItemOutcome
import SignalR.Theorems.Registry
import SignalR.Theorems.StreamItem
import SignalR.Theorems.RoundTrip
import SignalR.HubConnection.Connection
import SignalR.Theorems.Connection
import SignalR.Theorems.Streams
