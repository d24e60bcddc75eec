import VirtioPoc.Base.Run
import VirtioPoc.Base.Word
import VirtioPoc.Base.Layout
import VirtioPoc.VhostUser.Bitmap
import VirtioPoc.VhostUser.DirtyPages
import VirtioPoc.VhostUser.MemTable
import VirtioPoc.EventManager.Token
import VirtioPoc.Virtio.Memory
import VirtioPoc.Virtio.Queue
import VirtioPoc.Console.PortIo
import VirtioPoc.Console.ProcessRx
import VirtioPoc.Console.ProcessTx
import VirtioPoc.Console.ChainUse
import VirtioPoc.Gpu.Protocol
import VirtioPoc.Gpu.Decode
import VirtioPoc.Gpu.Response
import VirtioPoc.Gpu.Scanouts
import VirtioPoc.Gpu.ScanoutFailures
import VirtioPoc.Gpu.Worker
import VirtioPoc.Gpu.Notify
import VirtioPoc.Gpu.FenceSystem
import VirtioPoc.Gpu.FenceWorker
import VirtioPoc.Gpu.FencePlaces
import VirtioPoc.Gpu.FenceOrder
import VirtioPoc.Gpu.ResponseBytes
import VirtioPoc.Gpu.FenceCreation
import VirtioPoc.Gpu.FenceQueues
import VirtioPoc.Base.Locks
import VirtioPoc.Gpu.FenceLocks
import VirtioPoc.Gpu.Answer
import VirtioPoc.VhostUser.Vring
import VirtioPoc.VhostUser.VringLock
import VirtioPoc.Console.Control
import VirtioPoc.Console.ControlTx
import VirtioPoc.VhostUser.DirtyLog
import VirtioPoc.Console.ControlRx
import VirtioPoc.VhostUser.Handler
import VirtioPoc.VhostUser.Activation
import VirtioPoc.VhostUser.DeviceEffect
import VirtioPoc.VhostUser.ActivationFlag
import VirtioPoc.Console.Device
import VirtioPoc.Console.Lifecycle
import VirtioPoc.VhostUser.Backend
import VirtioPoc.VhostUser.Features
import VirtioPoc.Virtio.EventIdx
import VirtioPoc.Gpu.QueueWakeup
import VirtioPoc.VhostUser.KickEvent
import VirtioPoc.VhostUser.VringEnable
import VirtioPoc.VhostUser.KickRegistration
import VirtioPoc.VhostUser.BitmapBounds
import VirtioPoc.VhostUser.BitmapSlices
import VirtioPoc.VhostUser.KickReplacement
import VirtioPoc.VhostUser.VringAddr
import VirtioPoc.VhostUser.SetFeatures
import VirtioPoc.Console.EndOfFile
import VirtioPoc.Console.UsedSignal
import VirtioPoc.Console.TxAttempt
import VirtioPoc.Console.TxOffers
import VirtioPoc.Base.Loop
import VirtioPoc.Console.MainLoop
import VirtioPoc.Gpu.ScanoutSet
import VirtioPoc.Gpu.Readback
import VirtioPoc.Base.Scan
import VirtioPoc.Gpu.FenceScan
import VirtioPoc.Console.PortQueues
import VirtioPoc.VhostUser.VringSettings
import VirtioPoc.VhostUser.ConfigRead
import VirtioPoc.Gpu.Edid
import VirtioPoc.Gpu.FencedResponse
import VirtioPoc.Gpu.WorkerLoop
import VirtioPoc.Base.History
import VirtioPoc.Gpu.Device
import VirtioPoc.VhostUser.RingState
import VirtioPoc.Gpu.Backend
import VirtioPoc.Gpu.Actions
import VirtioPoc.Gpu.Rutabaga
import VirtioPoc.VhostUser.Panics
import VirtioPoc.Base.Order
import VirtioPoc.VhostUser.SetupOrder
import VirtioPoc.Console.InputLog
import VirtioPoc.Console.Dialogue
import VirtioPoc.Console.Conversation
import VirtioPoc.EventManager.Epoll
import VirtioPoc.Base.Slots
import VirtioPoc.VhostUser.HandOver
import VirtioPoc.VhostUser.Daemon
import VirtioPoc.Base.Flags
import VirtioPoc.Gpu.Config
import VirtioPoc.Console.Conversation
