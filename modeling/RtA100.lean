import RtA100.Library.Machine
import RtA100.Library.Bytes
import RtA100.Library.Ring
import RtA100.Library.Fifo
import RtA100.Library.Text
import RtA100.Library.Scan
import RtA100.Library.Search
import RtA100.Library.Stream
import RtA100.Library.Tokens
import RtA100.Library.ScanFields
import RtA100.Library.Topic
import RtA100.Library.Cursor
import RtA100.Library.FloatFormat
import RtA100.Library.Heap
import RtA100.Library.Session
import RtA100.Library.Reader
import RtA100.Library.Strtod
import RtA100.Library.CriticalSection
import RtA100.Queue
import RtA100.QueueFifo
import RtA100.QueueLocking
import RtA100.Frame
import RtA100.Publib
import RtA100.FrameBuilders
import RtA100.NavData
import RtA100.NavRoundTrip
import RtA100.CloudEvent
import RtA100.CloudDispatch
import RtA100.Validators
import RtA100.CloudResidue
import RtA100.Link
import RtA100.LinkTransitions
import RtA100.QueueBounds
import RtA100.FrameProvenance
import RtA100.Forwarding
import RtA100.ForwardOrder
import RtA100.CloudSegmentation
import RtA100.PayloadSplit
import RtA100.Wire
import RtA100.Heartbeat
import RtA100.BcdRoundTrip
import RtA100.Encoders
import RtA100.Handshake
import RtA100.TcpConnection
import RtA100.ConnectionOwnership
import RtA100.ConnectionRetry
import RtA100.MqttClient
import RtA100.Lifecycle
import RtA100.LifecycleOrder
import RtA100.EventThread
import RtA100.ContextLifetime
import RtA100.OtaMission
import RtA100.OtaResponse
import RtA100.DownloadHandoff
import RtA100.OtaUpdater
import RtA100.OtaVerified
import RtA100.MissionRoundTrip
import RtA100.OtaHistory
import RtA100.OtaRecords
import RtA100.OtaReports
import RtA100.JsonPrint
import RtA100.JsonBuffers
import RtA100.JsonParse
import RtA100.JsonGrammar
import RtA100.JsonStrings
import RtA100.JsonRoundTrip
import RtA100.TaskProcessing
import RtA100.OtaFields
import RtA100.Md5Gate
import RtA100.ModemConnect
import RtA100.SerialRead
import RtA100.AtReplies
import RtA100.NavSentences
import RtA100.SgDataParse
import RtA100.HttpBody
import RtA100.Corruption
import RtA100.LinkedList
import RtA100.SshExecute
import RtA100.SftpTransfer
import RtA100.SshHandles
import RtA100.SshSessions
import RtA100.LogCopies
import RtA100.FileUploads
import RtA100.SystemCall
import RtA100.UnitList
import RtA100.DeviceInfo
import RtA100.Uplink
import RtA100.WaveFiles
import RtA100.HeartbeatInfo
import RtA100.OtaHeartbeats
import RtA100.PackageLocks
import RtA100.Navigation
