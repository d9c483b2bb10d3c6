import HakRobot.Camera.DeviceSelection
import HakRobot.Camera.Mailbox
import HakRobot.Camera.Reset
import HakRobot.Proc.Trace

/-!
# The two threads of the camera node

The main thread constructs a `Camera`, reads images in its loop and destroys the
`Camera` when `main` returns; the constructor creates the thread of `HKWorkThread`.
They share the handle of the SDK, the mutex and the frame under it.

Here every access is an operation of its own, where `HakRobot.Camera.Mailbox` takes a
critical section for one step, and both loops end when ROS does, after any number of
rounds.
-/

namespace HakRobot.Camera

open HakRobot.Proc

/-! ## Operations -/

inductive Caller
  | main
  | worker
deriving DecidableEq

/-- The calls that return a status, of the SDK and of pthreads. -/
inductive StatusCall
  | createHandle (nIndex : Nat)
  | openDevice
  | setValue (call : SetCall)
  | getPixelFormat
  | startGrabbing
  | mutexInit
  | createThread
  | stopGrabbing
  | closeDevice
  | destroyHandle
deriving DecidableEq

inductive CameraOp
  /-- `MV_CC_EnumDevices`. -/
  | enumDevices
  | call (c : StatusCall)
  | rosOk
  /-- `loop_rate.sleep()` and `ros::spinOnce()`. -/
  | sleepSpin
  | lock (who : Caller)
  | unlock (who : Caller)
  | readFrameEmpty
  | setFrameEmpty (b : Bool)
  /-- `camera::frame.clone()`. -/
  | cloneFrame
  /-- `camera::frame = cv::Mat(...).clone()`, from `m_pBufForSaveImage`. -/
  | storeFrame (f : RawFrame)
  | publish (image : Mat)
  /-- `MV_CC_GetOneFrameTimeout`. -/
  | getOneFrame
  | convertPixelType (f : RawFrame)
  /-- The worker thread starts. -/
  | beginWork
  /-- The worker thread returns. -/
  | endWork
  | joinThread
  | destroyMutex

/-- A call that only answers `nRet` has it as its result; a list or a frame is there
when `nRet` is `MV_OK`. -/
abbrev CameraOp.Res : CameraOp → Type
  | .enumDevices => Option (List (Option DeviceInfo))
  | .call _ => Int32
  | .rosOk => Bool
  | .readFrameEmpty => Bool
  | .cloneFrame => Mat
  | .getOneFrame => Option RawFrame
  | .convertPixelType _ => Bool
  | .sleepSpin | .lock _ | .unlock _ | .setFrameEmpty _ | .storeFrame _ | .publish _
  | .beginWork | .endWork | .joinThread | .destroyMutex => Unit

abbrev cameraSig : Sig := ⟨CameraOp, CameraOp.Res⟩

/-- `exit(-1)`, like the null pointer, ends the process. -/
abbrev Code (α : Type) := Prog cameraSig SelectError α

/-- One operation. -/
def Code.perform (o : CameraOp) : Code o.Res := Prog.perform (σ := cameraSig) o

/-! ## The code -/

/-- A call after whose failure the process exits. -/
def must (c : StatusCall) : Code Unit := do
  let nRet ← Code.perform (.call c)
  if nRet ≠ MV_OK then .raise .exit else return ()

/-- A call whose failure is printed only. -/
def attempt (c : StatusCall) : Code Unit := (Code.perform (.call c)).discard

/-- The settings that the constructor writes, between `MV_CC_OpenDevice` and
`MV_CC_StartGrabbing`. -/
def Settings.constructorCalls (f : Settings) : List SetCall :=
  [⟨.enumValue, "GainAuto", 0⟩, CamerProperties.framerateEnable.call f.frameRateEnable.toNat] ++
  (if f.frameRateEnable then [CamerProperties.framerate.call f.frameRate] else []) ++
  [CamerProperties.height.call f.height, CamerProperties.width.call f.width,
    CamerProperties.offsetX.call f.offsetX, CamerProperties.offsetY.call f.offsetY,
    CamerProperties.exposureTime.call f.exposureTime,
    CamerProperties.gammaEnable.call f.gammaEnable.toNat] ++
  (if f.gammaEnable then [CamerProperties.gamma.call f.gamma] else []) ++
  [CamerProperties.gain.call f.gain, ⟨.enumValue, "BalanceWhiteAuto", 0⟩] ++
  (if f.saturationEnable then
    [CamerProperties.saturationEnable.call f.saturationEnable.toNat,
      CamerProperties.saturation.call f.saturation] else []) ++
  [⟨.enumValue, "TriggerMode", 0⟩]

def configure (f : Settings) : Code Unit := do
  Prog.forEach (fun call => attempt (.setValue call)) f.constructorCalls
  attempt .getPixelFormat

/-- `Camera::Camera`. -/
def constructor (camera_ip : List Char) (f : Settings) : Code Unit := do
  match ← Code.perform .enumDevices with
  | none => .raise .exit
  | some devices =>
      let nIndex ← Prog.ofExcept (selectDevice camera_ip devices)
      must (.createHandle nIndex)
      must .openDevice
      configure f
      must .startGrabbing
      must .mutexInit
      must .createThread

/-- `Camera::~Camera`. -/
def destructor : Code Unit := do
  Code.perform .joinThread
  must .stopGrabbing
  must .closeDevice
  must .destroyHandle
  Code.perform .destroyMutex

/-- `Camera::ReadImg`. -/
def readImg : Code Mat := do
  Code.perform (.lock .main)
  let frameEmpty ← Code.perform .readFrameEmpty
  if frameEmpty then
    Code.perform (.unlock .main)
    return Mat.none
  else
    let image ← Code.perform .cloneFrame
    Code.perform (.setFrameEmpty true)
    Code.perform (.unlock .main)
    return image

/-- The loop of `main`, when ROS is shut down after `n` rounds at the latest. -/
def mainLoop : Nat → Code Unit
  | 0 => return ()
  | n + 1 => do
      let ok ← Code.perform .rosOk
      if ok then
        Code.perform .sleepSpin
        let src ← readImg
        if src.empty then
          mainLoop n
        else
          Code.perform (.publish src)
          mainLoop n
      else return ()

/-- `main`, from the construction of `MVS_cap` to its destruction. -/
def mainThread (camera_ip : List Char) (f : Settings) (n : Nat) : Code Unit := do
  constructor camera_ip f
  mainLoop n
  destructor

/-- The loop of `HKWorkThread`, when ROS is shut down after `n` rounds at the latest. -/
def workLoop : Nat → Code Unit
  | 0 => return ()
  | n + 1 => do
      let ok ← Code.perform .rosOk
      if ok then
        match ← Code.perform .getOneFrame with
        | none => workLoop n
        | some f =>
            let _ ← Code.perform (.convertPixelType f)
            Code.perform (.lock .worker)
            Code.perform (.storeFrame f)
            Code.perform (.setFrameEmpty false)
            Code.perform (.unlock .worker)
            workLoop n
      else return ()

/-- `Camera::HKWorkThread`. -/
def hkWorkThread (n : Nat) : Code Unit := do
  Code.perform .beginWork
  workLoop n
  Code.perform .endWork

/-! ## What the threads share -/

inductive HandleState
  | null
  | created
  | opened
  | grabbing
  | destroyed
deriving DecidableEq

inductive MutexState
  | raw
  | free
  | held (who : Caller)
  | destroyed
deriving DecidableEq

inductive WorkerState
  | notCreated
  | running
  | ended
deriving DecidableEq

/-- The handle, the mutex, the thread, and the variables of `HakRobot.Camera.Mailbox`.
`published` lists the images given to the publisher, the newest first. -/
structure Shared where
  handle : HandleState
  mutex : MutexState
  worker : WorkerState
  saveImage : List UInt8
  frame : Mat
  frameEmpty : Bool
  published : List Mat

/-- Before `main` constructs the camera. -/
def Shared.init (garbage : List UInt8) : Shared :=
  ⟨.null, .raw, .notCreated, garbage, .none, false, []⟩

/-- What a call does when its status is `MV_OK`; otherwise it does nothing. -/
def StatusCall.effect (s : Shared) : StatusCall → Shared
  | .createHandle _ => { s with handle := .created }
  | .openDevice => { s with handle := .opened }
  | .setValue _ => s
  | .getPixelFormat => s
  | .startGrabbing => { s with handle := .grabbing }
  | .mutexInit => { s with mutex := .free }
  | .createThread => { s with worker := .running }
  | .stopGrabbing => { s with handle := .opened }
  | .closeDevice => { s with handle := .created }
  | .destroyHandle => { s with handle := .destroyed }

/-- `MV_CC_ConvertPixelType`; the result says whether it returned `MV_OK`. -/
def Shared.convert (conv : PixelConverter) (s : Shared) (f : RawFrame) :
    ConvertResult → Bool × Shared
  | .ok => (true, { s with saveImage := conv.bgr f ++ s.saveImage.drop f.bgrSize })
  | .failed left => (false, { s with saveImage := left })

/-- How the outside world ends an operation. -/
abbrev CameraOp.Choice : CameraOp → Type
  | .enumDevices => Option (List (Option DeviceInfo))
  | .call _ => Int32
  | .rosOk => Bool
  | .getOneFrame => Option RawFrame
  | .convertPixelType _ => ConvertResult
  | .readFrameEmpty | .cloneFrame | .sleepSpin | .lock _ | .unlock _ | .setFrameEmpty _
  | .storeFrame _ | .publish _ | .beginWork | .endWork | .joinThread | .destroyMutex => Unit

def cameraExec (conv : PixelConverter) (s : Shared) : (o : CameraOp) → o.Choice → o.Res × Shared
  | .enumDevices, devices => (devices, s)
  | .call c, nRet => (nRet, if nRet = MV_OK then c.effect s else s)
  | .rosOk, ok => (ok, s)
  | .sleepSpin, _ => ((), s)
  | .lock who, _ => ((), { s with mutex := .held who })
  | .unlock _, _ => ((), { s with mutex := .free })
  | .readFrameEmpty, _ => (s.frameEmpty, s)
  | .setFrameEmpty b, _ => ((), { s with frameEmpty := b })
  | .cloneFrame, _ => (s.frame, s)
  | .storeFrame f, _ =>
      ((), { s with frame := ⟨f.nHeight, f.nWidth, s.saveImage.take f.bgrSize⟩ })
  | .publish image, _ => ((), { s with published := image :: s.published })
  | .getOneFrame, frame => (frame, s)
  | .convertPixelType f, result => s.convert conv f result
  | .beginWork, _ => ((), s)
  | .endWork, _ => ((), { s with worker := .ended })
  | .joinThread, _ => ((), s)
  | .destroyMutex, _ => ((), { s with mutex := .destroyed })

def cameraNode (conv : PixelConverter) : Machine cameraSig Shared where
  Choice := CameraOp.Choice
  exec o c s := cameraExec conv s o c

/-- When an operation can end: a lock waits until nobody holds the mutex, a join until
the thread has ended, and a thread begins after it was created. A conversion succeeds
when its result fits into the buffer. -/
def CanEnd (s : Shared) : (o : CameraOp) → o.Choice → Prop
  | .lock _, _ => ∀ who, s.mutex ≠ .held who
  | .joinThread, _ => s.worker ≠ .running
  | .beginWork, _ => s.worker = .running
  | .convertPixelType f, .ok => f.bgrSize ≤ MAX_IMAGE_DATA_SIZE
  | _, _ => True

/-- `CanEnd`, of the operations of the node. -/
def blocking (conv : PixelConverter) : (cameraNode conv).Rely := CanEnd

/-- The node: both loops end after `n` and `m` rounds at the latest. -/
def cameraPool (camera_ip : List Char) (f : Settings) (n m : Nat) (garbage : List UInt8) :
    Pool cameraSig Shared SelectError Unit Caller where
  shared := .init garbage
  thread
    | .main => mainThread camera_ip f n
    | .worker => hkWorkThread m

end HakRobot.Camera
