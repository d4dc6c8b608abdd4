import CatLitterBox.Ble.Chunks
import CatLitterBox.Ble.Credentials
import CatLitterBox.Ble.Crypto
import CatLitterBox.Ble.Decrypt
import CatLitterBox.Ble.Documented
import CatLitterBox.Ble.Encrypted
import CatLitterBox.Ble.Gating
import CatLitterBox.Ble.Motion
import CatLitterBox.Ble.Parse
import CatLitterBox.Ble.Provision
import CatLitterBox.Ble.Reads
import CatLitterBox.Ble.Retry
import CatLitterBox.Ble.Sealing
import CatLitterBox.Ble.Transport
import CatLitterBox.Ble.WifiList
import CatLitterBox.Codec.Frames
import CatLitterBox.Codec.Varint
import CatLitterBox.Config.AppConfig
import CatLitterBox.Config.Flush
import CatLitterBox.Config.Load
import CatLitterBox.Config.Nvs
import CatLitterBox.Config.ResetReason
import CatLitterBox.Config.Restart
import CatLitterBox.Console.Command
import CatLitterBox.Console.Endings
import CatLitterBox.Console.Lines
import CatLitterBox.Console.Lossless
import CatLitterBox.Console.Parser
import CatLitterBox.Console.Pending
import CatLitterBox.Console.RingBuffer
import CatLitterBox.Console.Status
import CatLitterBox.Diag.Boot
import CatLitterBox.Diag.Clicks
import CatLitterBox.Diag.Keyscan
import CatLitterBox.Diag.LongPress
import CatLitterBox.Diag.Modes
import CatLitterBox.Diag.Presses
import CatLitterBox.Diag.Routine
import CatLitterBox.Diag.Settled
import CatLitterBox.Diag.Watch
import CatLitterBox.Drive.Addressed
import CatLitterBox.Drive.Arrival
import CatLitterBox.Drive.ClosedLoop
import CatLitterBox.Drive.Dc
import CatLitterBox.Drive.Interlock
import CatLitterBox.Drive.Limits
import CatLitterBox.Drive.Machine
import CatLitterBox.Drive.Refinement
import CatLitterBox.Drive.Release
import CatLitterBox.Drive.SoftStart
import CatLitterBox.Drive.Spin
import CatLitterBox.Drive.Steps
import CatLitterBox.Drive.Success
import CatLitterBox.Drive.Timeouts
import CatLitterBox.Drive.Waste
import CatLitterBox.Firmware.Exclusive
import CatLitterBox.Firmware.Freeze
import CatLitterBox.Firmware.Manage
import CatLitterBox.Firmware.Occupied
import CatLitterBox.Firmware.Step
import CatLitterBox.Firmware.System
import CatLitterBox.Firmware.Tasks
import CatLitterBox.Json.Basic
import CatLitterBox.Json.Text
import CatLitterBox.Led.Commands
import CatLitterBox.Led.Process
import CatLitterBox.LoadCell.Average
import CatLitterBox.LoadCell.Emission
import CatLitterBox.LoadCell.Fsm
import CatLitterBox.LoadCell.Proc
import CatLitterBox.LoadCell.Tare
import CatLitterBox.Memory.Blocks
import CatLitterBox.Memory.Capacity
import CatLitterBox.Memory.Cell
import CatLitterBox.Memory.Compaction
import CatLitterBox.Memory.Heap
import CatLitterBox.Memory.Layout
import CatLitterBox.Memory.Reads
import CatLitterBox.Memory.Slots
import CatLitterBox.Memory.Table
import CatLitterBox.Memory.Words
import CatLitterBox.Memory.WriteBack
import CatLitterBox.Motor.Arrived
import CatLitterBox.Motor.Calibration
import CatLitterBox.Motor.Clean
import CatLitterBox.Motor.EmergencyStop
import CatLitterBox.Motor.Failing
import CatLitterBox.Motor.Frame.Calibration
import CatLitterBox.Motor.Frame.Clean
import CatLitterBox.Motor.Frame.Reached
import CatLitterBox.Motor.Frame.Wait
import CatLitterBox.Motor.Interlock
import CatLitterBox.Motor.Interrupt.Basic
import CatLitterBox.Motor.Interrupt.Scenario
import CatLitterBox.Motor.Manage
import CatLitterBox.Motor.Origin
import CatLitterBox.Motor.OriginReturns
import CatLitterBox.Motor.OriginSearch
import CatLitterBox.Motor.Ownership
import CatLitterBox.Motor.Pause.Effect
import CatLitterBox.Motor.Pause.Paused
import CatLitterBox.Motor.Pause.Resumed
import CatLitterBox.Motor.Pause.Run
import CatLitterBox.Motor.Plant
import CatLitterBox.Motor.Recovery
import CatLitterBox.Motor.Run
import CatLitterBox.Motor.Scenario
import CatLitterBox.Motor.TofCheck
import CatLitterBox.Motor.Types
import CatLitterBox.Motor.Wait
import CatLitterBox.Motor.World
import CatLitterBox.Mqtt.Delivery
import CatLitterBox.Mqtt.Enqueue
import CatLitterBox.Mqtt.Exchange
import CatLitterBox.Mqtt.Framing
import CatLitterBox.Mqtt.Header
import CatLitterBox.Mqtt.KeepAlive
import CatLitterBox.Mqtt.Levels
import CatLitterBox.Mqtt.Library
import CatLitterBox.Mqtt.Operations
import CatLitterBox.Mqtt.PacketId
import CatLitterBox.Mqtt.Receive
import CatLitterBox.Mqtt.Resend
import CatLitterBox.Mqtt.RoundTrip
import CatLitterBox.Mqtt.Send
import CatLitterBox.Mqtt.State
import CatLitterBox.Mqtt.Tracker
import CatLitterBox.Mqtt.Transfer
import CatLitterBox.Mqtt.Wire
import CatLitterBox.Program.Basic
import CatLitterBox.Program.Every
import CatLitterBox.Program.History
import CatLitterBox.Program.Implement
import CatLitterBox.Program.Oracle
import CatLitterBox.Program.Reaches
import CatLitterBox.Program.Refine
import CatLitterBox.Program.Rely
import CatLitterBox.Program.Total
import CatLitterBox.Program.Turns
import CatLitterBox.Program.Until
import CatLitterBox.Program.Wp
import CatLitterBox.Provisioning.Acknowledged
import CatLitterBox.Provisioning.Client
import CatLitterBox.Provisioning.Connections
import CatLitterBox.Provisioning.Main
import CatLitterBox.Provisioning.OnTime
import CatLitterBox.Provisioning.Payloads
import CatLitterBox.Provisioning.Restart
import CatLitterBox.Provisioning.Session
import CatLitterBox.Provisioning.Sessions
import CatLitterBox.Provisioning.Subscribed
import CatLitterBox.Provisioning.Tls
import CatLitterBox.Queue.Channel
import CatLitterBox.Queue.Ring
import CatLitterBox.Queue.Window
import CatLitterBox.Sensor.Bounds
import CatLitterBox.Sensor.Frame
import CatLitterBox.Sensor.Framing
import CatLitterBox.Sensor.Malformed
import CatLitterBox.Sensor.Parser
import CatLitterBox.Sensor.Photo
import CatLitterBox.Sensor.Tof
import CatLitterBox.Sensor.TofDistance
import CatLitterBox.Sensor.TofWindow
import CatLitterBox.Temporal.Fair
import CatLitterBox.Temporal.Run
import CatLitterBox.Temporal.Simulation
import CatLitterBox.Temporal.Since
import CatLitterBox.Text.Base64
import CatLitterBox.Text.CString
import CatLitterBox.Text.Lines
import CatLitterBox.Text.Scan
import CatLitterBox.Tracker.Activity
import CatLitterBox.Tracker.Found
import CatLitterBox.Tracker.Owner
import CatLitterBox.Tracker.Table
import CatLitterBox.Ui.ClumpingWait
import CatLitterBox.Ui.Proximity
import CatLitterBox.Wifi.ConnectedBit
import CatLitterBox.Wifi.Merge
import CatLitterBox.Wifi.Reconnect
import CatLitterBox.Wifi.Scan
import CatLitterBox.Wifi.Station
