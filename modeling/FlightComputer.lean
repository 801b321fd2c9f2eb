import FlightComputer.Library.Ascii
import FlightComputer.Library.BitFields
import FlightComputer.Library.CircularBuffer
import FlightComputer.Library.Crc
import FlightComputer.Library.Decimal
import FlightComputer.Library.Dialogues
import FlightComputer.Library.Excepts
import FlightComputer.Library.Fallible
import FlightComputer.Library.Histories
import FlightComputer.Library.Json
import FlightComputer.Library.OnceOnly
import FlightComputer.Library.Performances
import FlightComputer.Library.Raising
import FlightComputer.Library.Recording
import FlightComputer.Library.Runs
import FlightComputer.Library.Segments
import FlightComputer.Library.ShortTexts
import FlightComputer.Library.Ticks
import FlightComputer.Library.WorldRefinement
import FlightComputer.Firmware.Backpressure
import FlightComputer.Firmware.Bmp388
import FlightComputer.Firmware.CardDetectDebounce
import FlightComputer.Firmware.ComponentEvents
import FlightComputer.Firmware.ComponentRegistry
import FlightComputer.Firmware.ComponentTestRunner
import FlightComputer.Firmware.EventLines
import FlightComputer.Firmware.FailureReports
import FlightComputer.Firmware.Jsmn
import FlightComputer.Firmware.JsmnTokens
import FlightComputer.Firmware.JsonProtocol
import FlightComputer.Firmware.JsonResponses
import FlightComputer.Firmware.JsonTexts
import FlightComputer.Firmware.NewlineFramer
import FlightComputer.Firmware.ParserSafety
import FlightComputer.Firmware.ProductionRegistry
import FlightComputer.Firmware.ReceiveOverflow
import FlightComputer.Firmware.ReceivePath
import FlightComputer.Firmware.ReceiveRefinement
import FlightComputer.Firmware.RecordedJsmn
import FlightComputer.Firmware.RecordedParser
import FlightComputer.Firmware.RequestChecks
import FlightComputer.Firmware.RequestMembers
import FlightComputer.Firmware.RequestReading
import FlightComputer.Firmware.RequestTexts
import FlightComputer.Firmware.ResponseMemory
import FlightComputer.Firmware.SafeOutputs
import FlightComputer.Firmware.SdCardAddressing
import FlightComputer.Firmware.SdCardCapacity
import FlightComputer.Firmware.SdCardChipSelect
import FlightComputer.Firmware.SdCardClock
import FlightComputer.Firmware.SdCardDataCheck
import FlightComputer.Firmware.SdCardDiagnosis
import FlightComputer.Firmware.SdCardDriver
import FlightComputer.Firmware.SdCardInitialization
import FlightComputer.Firmware.SdCardPolling
import FlightComputer.Firmware.SdCardTest
import FlightComputer.Firmware.SdCardVerdict
import FlightComputer.Firmware.SensorSchedules
import FlightComputer.Firmware.SessionLifecycle
import FlightComputer.Firmware.SessionLines
import FlightComputer.Firmware.SessionMetadata
import FlightComputer.Firmware.SessionProtocol
import FlightComputer.Firmware.SpiDevices
import FlightComputer.Firmware.TokenizerSafety
import FlightComputer.Firmware.TransmitQueue
import FlightComputer.Firmware.UsbCdcTransport
import FlightComputer.Firmware.Ws2812
import FlightComputer.BoardTester.AtomicReports
import FlightComputer.BoardTester.Colours
import FlightComputer.BoardTester.ComponentMessages
import FlightComputer.BoardTester.ComponentSession
import FlightComputer.BoardTester.Configuration
import FlightComputer.BoardTester.Connection
import FlightComputer.BoardTester.EscapingErrors
import FlightComputer.BoardTester.FlashedFirmware
import FlightComputer.BoardTester.Flashing
import FlightComputer.BoardTester.Framing
import FlightComputer.BoardTester.HandlerDialogues
import FlightComputer.BoardTester.Handlers
import FlightComputer.BoardTester.JsonDecoding
import FlightComputer.BoardTester.JsonEncoding
import FlightComputer.BoardTester.JsonSpelling
import FlightComputer.BoardTester.OperatorVerdicts
import FlightComputer.BoardTester.OrderlyWrites
import FlightComputer.BoardTester.PortDiscovery
import FlightComputer.BoardTester.ProbeListing
import FlightComputer.BoardTester.RequestEncoding
import FlightComputer.BoardTester.RequestLines
import FlightComputer.BoardTester.ResponseContract
import FlightComputer.BoardTester.Runner
import FlightComputer.BoardTester.RunnerDialogues
import FlightComputer.BoardTester.RunnerReports
import FlightComputer.BoardTester.RunnerResults
import FlightComputer.BoardTester.SessionMessages
import FlightComputer.BoardTester.Summary
import FlightComputer.BoardTester.TestReports
import FlightComputer.BoardTester.TesterDialogues
import FlightComputer.BoardTester.TimedReads
import FlightComputer.BackedResults
import FlightComputer.Bench
import FlightComputer.ComponentMessageRoundTrip
import FlightComputer.DeviceErrors
import FlightComputer.DispatchedTests
import FlightComputer.FramingAgreement
import FlightComputer.HandlerCalls
import FlightComputer.InterruptedWrites
import FlightComputer.LineCodec
import FlightComputer.LineFraming
import FlightComputer.MeasuredReports
import FlightComputer.MessageMatching
import FlightComputer.RequestRecognition
import FlightComputer.RequestRoundTrip
import FlightComputer.RequestStrictness
import FlightComputer.Requests
import FlightComputer.StartTestRoundTrip
import FlightComputer.StopHandshake
import FlightComputer.Synchronisation
import FlightComputer.SynchronisedDispatch
import FlightComputer.TestHistories
import FlightComputer.UnknownMessageTypes
import FlightComputer.Wire
import FlightComputer.WireRefinement
import FlightComputer.WireRequests
import FlightComputer.WireResponses
