import Pareader.Core.Buffer
import Pareader.Core.Checked
import Pareader.Core.Fifo
import Pareader.Core.Interaction
import Pareader.Core.Liveness
import Pareader.Core.Lru
import Pareader.Core.Machine
import Pareader.Core.Numeral
import Pareader.Core.Pacing
import Pareader.Core.Search
import Pareader.Core.Transducer
import Pareader.Core.TwoLoads
import Pareader.Firmware.AppMain
import Pareader.Firmware.CdcPort
import Pareader.Firmware.DriverBounds
import Pareader.Firmware.Hid
import Pareader.Firmware.Independence
import Pareader.Firmware.MifareKeys
import Pareader.Firmware.Pn532
import Pareader.Firmware.Pn532Codec
import Pareader.Firmware.Pn532Targets
import Pareader.Firmware.PrhpConformance
import Pareader.Firmware.Reader
import Pareader.Firmware.ReaderRuns
import Pareader.Firmware.Scan
import Pareader.Firmware.ScanPacing
import Pareader.Firmware.SegaBounds
import Pareader.Firmware.SegaDispatch
import Pareader.Firmware.SegaFraming
import Pareader.Firmware.SegaSessions
import Pareader.Firmware.SegaSoundness
import Pareader.Firmware.UsbDevice
import Pareader.Firmware.UsbPipelines
import Pareader.Host.Calls
import Pareader.Host.Configuration
import Pareader.Host.Correlation
import Pareader.Host.Delivery
import Pareader.Host.Discovery
import Pareader.Host.Display
import Pareader.Host.Exports
import Pareader.Host.Getters
import Pareader.Host.HidDevice
import Pareader.Host.HidHandle
import Pareader.Host.HidOutput
import Pareader.Host.HidShutdown
import Pareader.Host.Ownership
import Pareader.Host.ProgramRuns
import Pareader.Host.Protocol
import Pareader.Host.ReaderProgram
import Pareader.Host.Sequences
import Pareader.Host.Sessions
import Pareader.Host.Shutdown
import Pareader.Host.Supervision
import Pareader.System.CardAgreement
import Pareader.System.CardCodec
import Pareader.System.ReportPath
import Pareader.System.VersionHandshake
