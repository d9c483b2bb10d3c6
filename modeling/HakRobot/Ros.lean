import Mathlib.Data.Rat.Defs

/-!
# Messages and exceptions

The parts of the ROS messages that the nodes read or write, and the Python
exceptions their calls can raise. Every number is an exact rational.
-/

namespace HakRobot

/-- What a Python call can raise. `failure` is any other `Exception`. -/
inductive PyException
  | socketError
  | attributeError
  | unicodeError
  | rosInterrupt
  | failure
  | systemExit
deriving DecidableEq, Repr

/-- `trajectory_msgs/JointTrajectoryPoint`. -/
structure JointTrajectoryPoint where
  positions : List ℚ
  velocities : List ℚ
  accelerations : List ℚ
  timeFromStart : ℚ
deriving DecidableEq

/-- `trajectory_msgs/JointTrajectory`, with the stamp of its header. -/
structure JointTrajectory where
  stamp : ℚ
  jointNames : List String
  points : List JointTrajectoryPoint
deriving DecidableEq

end HakRobot
