import ChaosInMultiplayer.Program.Basic
import ChaosInMultiplayer.Program.Ensures
import ChaosInMultiplayer.Program.Script
import ChaosInMultiplayer.Program.Loop
import ChaosInMultiplayer.Program.History
import ChaosInMultiplayer.Program.Simulation
import ChaosInMultiplayer.Program.Channel
import ChaosInMultiplayer.Program.Routine
import ChaosInMultiplayer.Common.ConnectionStatus
import ChaosInMultiplayer.Common.Packet
import ChaosInMultiplayer.Common.Networking
import ChaosInMultiplayer.Common.QueueNetworking
import ChaosInMultiplayer.Server.ClientConnection
import ChaosInMultiplayer.Server.Ownership
import ChaosInMultiplayer.Server.Moves
import ChaosInMultiplayer.Server.Server
import ChaosInMultiplayer.Server.Update
import ChaosInMultiplayer.Server.Operation
import ChaosInMultiplayer.Server.Effect
import ChaosInMultiplayer.Server.Invariant
import ChaosInMultiplayer.Server.Broadcast
import ChaosInMultiplayer.Server.Fault
import ChaosInMultiplayer.Server.Refinement
import ChaosInMultiplayer.Server.Teardown
import ChaosInMultiplayer.Server.Resources
import ChaosInMultiplayer.Server.Receive
import ChaosInMultiplayer.Server.Restart
import ChaosInMultiplayer.Server.Quitting
import ChaosInMultiplayer.Server.Callbacks
import ChaosInMultiplayer.Server.Registrations
import ChaosInMultiplayer.Server.Admission
import ChaosInMultiplayer.Server.Membership
import ChaosInMultiplayer.Server.Delivery
import ChaosInMultiplayer.Server.Shutdown
import ChaosInMultiplayer.Endpoints.OutsideCalls
import ChaosInMultiplayer.Server.InOrder
import ChaosInMultiplayer.Client.Client
import ChaosInMultiplayer.Client.Effect
import ChaosInMultiplayer.Examples.ExampleClient
import ChaosInMultiplayer.Client.NullPacket
import ChaosInMultiplayer.Endpoints.StatusEvents
import ChaosInMultiplayer.Server.Processing
import ChaosInMultiplayer.Endpoints.BesidesMessages
import ChaosInMultiplayer.Endpoints.RoundTrip
import ChaosInMultiplayer.Endpoints.Consumption
import ChaosInMultiplayer.Endpoints.Overflow
import ChaosInMultiplayer.Endpoints.Sends
import ChaosInMultiplayer.Endpoints.Session
import ChaosInMultiplayer.Endpoints.Agreement
import ChaosInMultiplayer.Endpoints.CommonOrder
import ChaosInMultiplayer.Endpoints.ReceiveLoops
import ChaosInMultiplayer.Endpoints.Releases
import ChaosInMultiplayer.Examples.ExampleServer
import ChaosInMultiplayer.Examples.EventOrder
import ChaosInMultiplayer.Examples.ServerMain
import ChaosInMultiplayer.Examples.Welcomes
import ChaosInMultiplayer.Examples.Agreement
import ChaosInMultiplayer.Examples.QuitCommand
import ChaosInMultiplayer.Examples.StaleEvents
import ChaosInMultiplayer.Examples.ClientMain
import ChaosInMultiplayer.Examples.Conversation
import ChaosInMultiplayer.Examples.Notices
import ChaosInMultiplayer.Process.Process
import ChaosInMultiplayer.Process.Frame
import ChaosInMultiplayer.Process.Routing
import ChaosInMultiplayer.Process.Alone
import ChaosInMultiplayer.Input.InputController
import ChaosInMultiplayer.Input.Pipeline
import ChaosInMultiplayer.Input.Lifetime
import ChaosInMultiplayer.Input.UserInput
import ChaosInMultiplayer.Examples.Console
