import HakRobot.Driver.Recovery
import HakRobot.Driver.Interleaving
import HakRobot.Driver.StreamIntegrity
import HakRobot.Driver.ConnectWait
import HakRobot.Driver.ConnectionState
import HakRobot.Driver.JointOrder
import HakRobot.Driver.StopRequest
import HakRobot.Gripper.Slider
import HakRobot.Grab.DropSafety
import HakRobot.Grab.OneAtATime
import HakRobot.Grab.ToolOffset
import HakRobot.Camera.Mailbox
import HakRobot.Cell.Descent
import HakRobot.Cell.Freshness
import HakRobot.Driver.SocketLeak
import HakRobot.Gripper.Debounce
import HakRobot.Grab.RigidMotion
import HakRobot.Camera.Reset
import HakRobot.Cell.AtMostOnce
import HakRobot.Driver.Timing
import HakRobot.Driver.Shutdown
import HakRobot.Grab.Settle
import HakRobot.Cell.Workspace
import HakRobot.Gripper.BusFaults
import HakRobot.Camera.DeviceSelection
import HakRobot.Camera.Lifecycle
import HakRobot.Camera.Atomicity
import HakRobot.Detect.Charuco
import HakRobot.Handeye.MovementsGui
import HakRobot.Handeye.CalibrationGui
import HakRobot.Demo.Scripts
