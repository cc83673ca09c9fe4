import Msm7x27a.Lib.Runs
import Msm7x27a.Lib.Log
import Msm7x27a.Lib.Threads
import Msm7x27a.Lib.LockOrder
import Msm7x27a.Lib.Rely
import Msm7x27a.Lib.Signals
import Msm7x27a.Lib.Slot
import Msm7x27a.Lib.SortedVector
import Msm7x27a.Lib.KeyedVector
import Msm7x27a.Lib.Bits
import Msm7x27a.Lib.Loops
import Msm7x27a.Lib.Pending
import Msm7x27a.Audio.Hardware
import Msm7x27a.Audio.SampleRate
import Msm7x27a.Voip.Streams
import Msm7x27a.Voip.Device
import Msm7x27a.Voip.Outcomes
import Msm7x27a.Voip.Descriptor
import Msm7x27a.Voip.Usage
import Msm7x27a.Voip.CallMode
import Msm7x27a.Voip.Programs
import Msm7x27a.Voip.Locks
import Msm7x27a.Lpa.Session
import Msm7x27a.Lpa.Queues
import Msm7x27a.Lpa.Ownership
import Msm7x27a.Lpa.Contents
import Msm7x27a.Lpa.Eos
import Msm7x27a.Lpa.Programs
import Msm7x27a.Lpa.Deadlock
import Msm7x27a.Lpa.Wakeup
import Msm7x27a.Lpa.Available
import Msm7x27a.Lpa.Clock
import Msm7x27a.Streams.Registry
import Msm7x27a.Streams.Lifecycle
import Msm7x27a.Streams.Closing
import Msm7x27a.Route.Devices
import Msm7x27a.Route.PostProc
import Msm7x27a.Route.Routing
import Msm7x27a.Route.Steps
import Msm7x27a.Route.Path
import Msm7x27a.Route.Masks
import Msm7x27a.Route.Flags
import Msm7x27a.Policy.Manager
import Msm7x27a.Policy.Strategy
import Msm7x27a.Policy.Outputs
import Msm7x27a.Policy.Connection
import Msm7x27a.Policy.Essentials
import Msm7x27a.Policy.Atomic
import Msm7x27a.Policy.Effects
import Msm7x27a.Policy.Direct
import Msm7x27a.Policy.Calls
import Msm7x27a.Policy.Wiring
import Msm7x27a.Policy.Kept
import Msm7x27a.Policy.Holders
import Msm7x27a.Policy.Mutes
import Msm7x27a.Policy.Coverage
import Msm7x27a.Policy.MusicCount
import Msm7x27a.Policy.Deferred
import Msm7x27a.Policy.Headset
import Msm7x27a.Ril.Solicited
import Msm7x27a.Ril.Unsolicited
import Msm7x27a.Lib.Cells
import Msm7x27a.Lib.Scan
import Msm7x27a.Filter.Tables
import Msm7x27a.Filter.Parameters
import Msm7x27a.Filter.Stores
import Msm7x27a.Filter.Order
import Msm7x27a.Filter.Bounds
import Msm7x27a.Filter.Records
import Msm7x27a.Filter.Loading
import Msm7x27a.Hal.Devices
import Msm7x27a.Hal.Streams
import Msm7x27a.Route.Pins
import Msm7x27a.Lib.Leases
import Msm7x27a.Lpa.Descriptors
import Msm7x27a.Lpa.Usable
import Msm7x27a.Route.Parameters
import Msm7x27a.Recording.Stream
import Msm7x27a.Recording.Opening
import Msm7x27a.Recording.Packing
import Msm7x27a.Voip.Writing
import Msm7x27a.Voip.Reading
import Msm7x27a.Route.Playback
import Msm7x27a.Voip.Refusals
import Msm7x27a.Client.Calls
import Msm7x27a.Client.Output
import Msm7x27a.Route.Endpoints
import Msm7x27a.Ril.FailedSms
import Msm7x27a.Ril.Nitz
import Msm7x27a.Policy.Opening
import Msm7x27a.Policy.Listing
import Msm7x27a.Policy.Dynamic
import Msm7x27a.Policy.Volume
import Msm7x27a.Policy.StreamVolumes
import Msm7x27a.Policy.MuteDelays
import Msm7x27a.Lib.CString
import Msm7x27a.Filter.Mapping
import Msm7x27a.Filter.Lines
import Msm7x27a.Policy.Inputs
import Msm7x27a.Policy.OutputRouting
import Msm7x27a.Lib.Resource
import Msm7x27a.Lib.Descriptors
import Msm7x27a.Power.Boost
import Msm7x27a.Power.Descriptors
import Msm7x27a.Bt.Rfkill
import Msm7x27a.Bt.Vendor
import Msm7x27a.Camera.Devices
import Msm7x27a.Camera.Hal
import Msm7x27a.Camera.Messages
import Msm7x27a.Camera.Preview
