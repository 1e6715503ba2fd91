import UdcFirmware.Lib.Checked
import UdcFirmware.Lib.Runs
import UdcFirmware.Lib.ByteMem
import UdcFirmware.Lib.Stateful
import UdcFirmware.Lib.Blocks
import UdcFirmware.Lib.Since
import UdcFirmware.Lib.Traces
import UdcFirmware.Lib.Unions
import UdcFirmware.Lib.Filling
import UdcFirmware.Lib.Absorbing
import UdcFirmware.Lib.OnesComplement
import UdcFirmware.Lib.Bitmaps
import UdcFirmware.Bsmp.Types
import UdcFirmware.Bsmp.Server
import UdcFirmware.Bsmp.Registry
import UdcFirmware.Bsmp.Instance
import UdcFirmware.Bsmp.Accesses
import UdcFirmware.Bsmp.Outcome
import UdcFirmware.Bsmp.Requests
import UdcFirmware.Bsmp.Answers
import UdcFirmware.Bsmp.Atomicity
import UdcFirmware.Bsmp.Protection
import UdcFirmware.Bsmp.Members
import UdcFirmware.Bsmp.Validator
import UdcFirmware.Bsmp.Accepted
import UdcFirmware.Bsmp.GroupCommands
import UdcFirmware.Bsmp.Hooks
import UdcFirmware.Bsmp.Client
import UdcFirmware.Bsmp.Operations
import UdcFirmware.Bsmp.ClientSafety
import UdcFirmware.Bsmp.Link
import UdcFirmware.Bsmp.Discovery
import UdcFirmware.Bsmp.Verdicts
import UdcFirmware.Bsmp.Failures
import UdcFirmware.Bsmp.CurveTransfer
import UdcFirmware.Bsmp.CurveTermination
import UdcFirmware.Bsmp.CurveChecksum
import UdcFirmware.Bsmp.Md5Code
import UdcFirmware.Bsmp.Digest
import UdcFirmware.Bsmp.WriteRead
import UdcFirmware.Bsmp.Jig
import UdcFirmware.Drivers.SystemTask
import UdcFirmware.Drivers.WireMessage
import UdcFirmware.Drivers.UsbToSerial
import UdcFirmware.Drivers.SerialFraming
import UdcFirmware.Drivers.SerialTurns
import UdcFirmware.Drivers.Ethernet
import UdcFirmware.Drivers.EthernetClients
import UdcFirmware.Drivers.Transports
import UdcFirmware.Drivers.Ihm
import UdcFirmware.Drivers.Receivers
import UdcFirmware.Drivers.Eeprom
import UdcFirmware.Drivers.EepromStore
import UdcFirmware.Drivers.Can
import UdcFirmware.Drivers.CanSources
import UdcFirmware.Drivers.CanDecoding
import UdcFirmware.Drivers.CanLatches
import UdcFirmware.Drivers.CanFaults
import UdcFirmware.Drivers.CanAlarms
import UdcFirmware.Drivers.CanInterrupts
import UdcFirmware.Drivers.IhmCommands
import UdcFirmware.Drivers.Gains
import UdcFirmware.Drivers.PanelFrames
import UdcFirmware.Drivers.PanelRoundTrip
import UdcFirmware.Drivers.JigTests
import UdcFirmware.Drivers.JigRequests
import UdcFirmware.Drivers.JigStarts
import UdcFirmware.Drivers.Exio
import UdcFirmware.Drivers.Indicators
import UdcFirmware.Drivers.IndicatorRuns
import UdcFirmware.Uip.Packets
import UdcFirmware.Uip.Checksum
import UdcFirmware.Uip.Reass
import UdcFirmware.Uip.Fragments
import UdcFirmware.Uip.Process
import UdcFirmware.Uip.Echo
import UdcFirmware.Uip.Turns
import UdcFirmware.Uip.Connections
import UdcFirmware.Uip.Datagrams
import UdcFirmware.Uip.Delivery
import UdcFirmware.Uip.Timers
import UdcFirmware.Uip.Httpd
import UdcFirmware.Uip.Requests
import UdcFirmware.Uip.Sending
import UdcFirmware.Uip.Responses
import UdcFirmware.Uip.Arp
import UdcFirmware.Uip.Resolution
import UdcFirmware.Uip.Ether
import UdcFirmware.Uip.MainLoop
