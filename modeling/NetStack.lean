import NetStack.Bench.Install
import NetStack.Bench.Run
import NetStack.Config.Build
import NetStack.Proofs.Accesses
import NetStack.Proofs.Actions
import NetStack.Proofs.Atomicity
import NetStack.Proofs.Blocking
import NetStack.Proofs.Calls
import NetStack.Proofs.Checksums
import NetStack.Proofs.Corruption
import NetStack.Proofs.Datagrams
import NetStack.Proofs.Delivery
import NetStack.Proofs.Draining
import NetStack.Proofs.Driver
import NetStack.Proofs.Fragments
import NetStack.Proofs.Framing
import NetStack.Proofs.Grammar
import NetStack.Proofs.GuardedWait
import NetStack.Proofs.Handshake
import NetStack.Proofs.Headers
import NetStack.Proofs.InPlace
import NetStack.Proofs.Journal
import NetStack.Proofs.MacText
import NetStack.Proofs.Numerals
import NetStack.Proofs.OnesComplement
import NetStack.Proofs.Ownership
import NetStack.Proofs.Parking
import NetStack.Proofs.Pieces
import NetStack.Proofs.Receive
import NetStack.Proofs.ReceiveLaw
import NetStack.Proofs.Restart
import NetStack.Proofs.Rings
import NetStack.Proofs.RogueCard
import NetStack.Proofs.Sending
import NetStack.Proofs.SetUp
import NetStack.Proofs.Sides
import NetStack.Proofs.SocketMap
import NetStack.Proofs.Sockets
import NetStack.Proofs.Transmit
import NetStack.Proofs.TransmitLaw
import NetStack.Proofs.Transparency
import NetStack.Proofs.Turns
import NetStack.Proofs.Upkeep
import NetStack.Proofs.Wakeup
import NetStack.Wait.Monitor
import NetStack.Proofs.Builds
import NetStack.Proofs.Probing
import NetStack.Proofs.Geometry
import NetStack.Proofs.RegisterBase
