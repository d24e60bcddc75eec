import VirtioPoc.Base.Layout

/-!
# Messages of the control queues

`console_control.rs`, the data: the header of a control message, and the
messages that `ConsoleControl` queues for the guest.  A queued message is a
header alone or some bytes that begin with one.
-/

namespace VirtioPoc.Console

open Base

def virtioConsoleDeviceReady : UInt16 := 0
def virtioConsolePortAdd : UInt16 := 1
def virtioConsolePortReady : UInt16 := 3
def virtioConsoleConsolePort : UInt16 := 4
def virtioConsoleResize : UInt16 := 5
def virtioConsolePortOpen : UInt16 := 6
def virtioConsolePortName : UInt16 := 7

structure VirtioConsoleControl where
  id : UInt32
  (event value : UInt16)
  deriving DecidableEq

def VirtioConsoleControl.layout : Layout VirtioConsoleControl :=
  .iso (.prod .u32 <| .prod .u16 .u16)
    ⟨fun (a, b, c) => ⟨a, b, c⟩, fun s => (s.id, s.event, s.value), fun _ => rfl, fun _ => rfl⟩

/-- The order of the fields is that of the kernel, not that of the specification. -/
structure VirtioConsoleResize where
  (rows cols : UInt16)
  deriving DecidableEq

def VirtioConsoleResize.layout : Layout VirtioConsoleResize :=
  .iso (.prod .u16 .u16)
    ⟨fun (a, b) => ⟨a, b⟩, fun s => (s.rows, s.cols), fun _ => rfl, fun _ => rfl⟩

inductive Payload
  | consoleControl (msg : VirtioConsoleControl)
  | bytes (buf : List UInt8)
  deriving DecidableEq

/-- The `Deref` of a payload. -/
def Payload.deref : Payload → List UInt8
  | .consoleControl msg => VirtioConsoleControl.layout.toBytes msg
  | .bytes buf => buf

/-- What the control worker knows of a port. -/
structure Port where
  isConsole : Bool
  name : List UInt8
  deriving DecidableEq

def getWinSize : UInt16 × UInt16 := (80, 24)

/-! ### The messages of `ConsoleControl` -/

namespace ConsoleControl

def markConsolePort (portId : UInt32) : Payload :=
  .consoleControl ⟨portId, virtioConsoleConsolePort, 1⟩

def consoleResize (portId : UInt32) (newSize : VirtioConsoleResize) : Payload :=
  .bytes (VirtioConsoleControl.layout.toBytes ⟨portId, virtioConsoleResize, 0⟩ ++
    VirtioConsoleResize.layout.toBytes newSize)

def portAdd (portId : UInt32) : Payload :=
  .consoleControl ⟨portId, virtioConsolePortAdd, 0⟩

def portOpen (portId : UInt32) (isOpen : Bool) : Payload :=
  .consoleControl ⟨portId, virtioConsolePortOpen, if isOpen then 1 else 0⟩

/-- The name is not terminated. -/
def portName (portId : UInt32) (name : List UInt8) : Payload :=
  .bytes (VirtioConsoleControl.layout.toBytes ⟨portId, virtioConsolePortName, 1⟩ ++ name)

end ConsoleControl

end VirtioPoc.Console
