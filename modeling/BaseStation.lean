import BaseStation.Bridge.FrameTurn
import BaseStation.ConfigFile.Load
import BaseStation.Main
import BaseStation.Phy.Backend
import BaseStation.Proofs.Bridge.Allotted
import BaseStation.Proofs.Bridge.Answers
import BaseStation.Proofs.Bridge.Causes
import BaseStation.Proofs.Bridge.Channel
import BaseStation.Proofs.Bridge.Control
import BaseStation.Proofs.Bridge.Downlink
import BaseStation.Proofs.Bridge.Events
import BaseStation.Proofs.Bridge.Kept
import BaseStation.Proofs.Bridge.Local
import BaseStation.Proofs.Bridge.Moved
import BaseStation.Proofs.Bridge.Run
import BaseStation.Proofs.Bridge.Slot
import BaseStation.Proofs.Bridge.Step
import BaseStation.Proofs.Bridge.Track
import BaseStation.Proofs.Bridge.Twin
import BaseStation.Proofs.Bridge.Uplink
import BaseStation.Proofs.CipherProgress
import BaseStation.Proofs.Ciphering
import BaseStation.Proofs.Completion
import BaseStation.Proofs.Confirms
import BaseStation.Proofs.DtxHandles
import BaseStation.Proofs.Finality
import BaseStation.Proofs.Isolation
import BaseStation.Proofs.Opportunity
import BaseStation.Proofs.PacketMode
import BaseStation.Proofs.Reception
import BaseStation.Proofs.Rejection
import BaseStation.Proofs.Release
import BaseStation.Proofs.Reuse
import BaseStation.Proofs.Rollback
import BaseStation.Proofs.Supervision
import BaseStation.Proofs.Switching
import BaseStation.Proofs.VirtualRadio
import BaseStation.Proofs.VoiceClock
import BaseStation.Proofs.VoiceDuration
import BaseStation.Services.Quiet
import BaseStation.Services.Scripted
import BaseStation.Proofs.CaptureFidelity
import BaseStation.Proofs.VoiceOrder
import BaseStation.Proofs.CaptureInvisible
import BaseStation.Proofs.Machine.Time
import BaseStation.Proofs.Machine.Frame
import BaseStation.Proofs.Machine.Handlers
import BaseStation.Proofs.Machine.Agreement
import BaseStation.Proofs.PanicFreedom
import BaseStation.Proofs.PacketRequest
import BaseStation.Proofs.Validity
import BaseStation.Proofs.Configured
import BaseStation.Proofs.Addressees
import BaseStation.Proofs.ChannelTypes
import BaseStation.Proofs.CaptureNames
import BaseStation.Proofs.Machine.Loader
import BaseStation.Proofs.Loading
import BaseStation.Proofs.AccessBursts
import BaseStation.Proofs.SlotAccounting
import BaseStation.Proofs.Schedule
import BaseStation.Proofs.CaptureSelection
import BaseStation.Proofs.FillRotation
import BaseStation.Proofs.DownlinkContent
import BaseStation.Proofs.CipherHeuristic
import BaseStation.Proofs.MeasurementRecord
import BaseStation.Proofs.FrameNumbers
import BaseStation.Proofs.HeaderAcceptance
import BaseStation.Proofs.SameFrame
import BaseStation.Proofs.ReducedFrames
import BaseStation.Proofs.Bridge.SideBySide
import BaseStation.Proofs.Bridge.Echo
import BaseStation.Proofs.Bridge.Echoed
import BaseStation.Proofs.FrameInterchange
import BaseStation.Proofs.QueueAccount
import BaseStation.Proofs.BufferSplit
