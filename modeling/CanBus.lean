import CanBus.Acceptance.Bank
import CanBus.Acceptance.Filter
import CanBus.Acceptance.Reduction
import CanBus.Batch
import CanBus.Capture.Header
import CanBus.Capture.Log
import CanBus.Capture.Record
import CanBus.Device
import CanBus.Fault
import CanBus.Frame
import CanBus.Guarded
import CanBus.Length
import CanBus.Moment
import CanBus.Network.Basic
import CanBus.Network.Description
import CanBus.Network.Operation
import CanBus.Phase
import CanBus.Receiver
import CanBus.Slcan.Adapter
import CanBus.Slcan.Bitrate
import CanBus.Slcan.Line
import CanBus.Slcan.Reader
import CanBus.Slcan.SerialPort
import CanBus.SocketCan.Adapter
import CanBus.SocketCan.KernelFrame
import CanBus.SocketCan.Library
import CanBus.SystemError
import CanBus.Transmission
import CanBus.Text.Blank
import CanBus.Text.Hex
import CanBus.Text.Json
import CanBus.Text.JsonReader
import CanBus.Text.JsonWriter
import CanBus.Text.Split
import CanBus.Text.Utf8
import CanBus.Console.Arguments
import CanBus.Console.FileTree
import CanBus.Console.Host
import CanBus.Console.LogBuffer
import CanBus.Console.Medium
import CanBus.Console.Rehearsal
import CanBus.Console.Run
import CanBus.Main
import CanBus.Proofs.Network.Delivery
import CanBus.Proofs.Network.Containment
import CanBus.Proofs.Network.Effect
import CanBus.Proofs.Network.History
import CanBus.Proofs.Network.Separation
import CanBus.Proofs.Acceptance.Merge
import CanBus.Proofs.Acceptance.Covering
import CanBus.Proofs.Acceptance.Reconfiguration
import CanBus.Proofs.Acceptance.Reduction
import CanBus.Proofs.Acceptance.Steps
import CanBus.Proofs.Acceptance.Rank
import CanBus.Proofs.Acceptance.Descent
import CanBus.Proofs.Acceptance.Scan
import CanBus.Proofs.Acceptance.Stages
import CanBus.Proofs.Acceptance.Reach
import CanBus.Proofs.Text.Digits
import CanBus.Proofs.Text.Numeral
import CanBus.Proofs.Text.Json
import CanBus.Proofs.Capture.Word
import CanBus.Proofs.Capture.Record
import CanBus.Proofs.Capture.Log
import CanBus.Proofs.Transmission
import CanBus.Slcan.Session
import CanBus.Proofs.Slcan.Effect
import CanBus.Proofs.Slcan.Output
import CanBus.Proofs.Slcan.Port
import CanBus.SocketCan.Session
import CanBus.Proofs.Slcan.Codec
import CanBus.Proofs.Slcan.Grammar
import CanBus.Proofs.Slcan.Stream
import CanBus.Proofs.Slcan.Transcript
import CanBus.Proofs.Slcan.Relay
import CanBus.Proofs.Slcan.Splitting
import CanBus.Proofs.SocketCan.Codec
import CanBus.Proofs.Media.Plain
import CanBus.Proofs.Media.Lines
import CanBus.Proofs.Media.Refused
import CanBus.Proofs.Media.Solo
import CanBus.Proofs.Media.Interchange
import CanBus.Proofs.Media.Lifetime
import CanBus.Proofs.Media.Wire
import CanBus.Proofs.Console.Files
import CanBus.Proofs.Console.FrameText
import CanBus.Proofs.Console.FilterText
import CanBus.Proofs.Console.Installation
import CanBus.Proofs.Console.Logging
import CanBus.Proofs.Console.Replay
import CanBus.Proofs.Console.PassedOver
import CanBus.Proofs.Capture.Grammar
import CanBus.Proofs.Network.Arming
import CanBus.Proofs.Network.Fitting
import CanBus.Proofs.Media.Heading
