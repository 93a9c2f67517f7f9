import LibTsn.AlinxFreeCounters
import LibTsn.AlinxPtpClock
import LibTsn.AlinxPtpContinuity
import LibTsn.AlinxPtpConversion
import LibTsn.AlinxPtpRate
import LibTsn.AlinxSysClock
import LibTsn.CbsCredits
import LibTsn.CbsReservedRate
import LibTsn.CbsShapers
import LibTsn.LatencyControlMessages
import LibTsn.LatencyPairing
import LibTsn.LatencyTool
import LibTsn.LoopPasses
import LibTsn.QuantityReaders
import LibTsn.SampleBufferConservation
import LibTsn.SampleCredit
import LibTsn.SampleEchoIcmp
import LibTsn.SampleGateLookup
import LibTsn.SampleGptpClock
import LibTsn.SampleGptpElection
import LibTsn.SampleGptpLinkDelay
import LibTsn.SampleGptpPairing
import LibTsn.SampleIcmpChecksum
import LibTsn.SamplePdelayAnswer
import LibTsn.SampleQuickSort
import LibTsn.SampleRoundRobin
import LibTsn.SampleSelectQueue
import LibTsn.SampleTxRings
import LibTsn.TasNormalisation
import LibTsn.TasTrafficClass
import LibTsn.ThroughputAnswers
import LibTsn.ThroughputServer
import LibTsn.TimespecDiff
import LibTsn.VlanEgressMap
import LibTsn.VlanLock
import LibTsn.VlanNames
import LibTsn.VlanOpenFailure
import LibTsn.VlanReferences
import LibTsn.VlanRootQdisc
import LibTsn.VlanUsers
import LibTsn.XdmaAdmission
import LibTsn.XdmaApertureTransfer
import LibTsn.XdmaAsyncIo
import LibTsn.XdmaAsyncWrite
import LibTsn.XdmaBakeQosConfig
import LibTsn.XdmaBaseTime
import LibTsn.XdmaBestEffort
import LibTsn.XdmaBurstContained
import LibTsn.XdmaClosedClass
import LibTsn.XdmaCreditBound
import LibTsn.XdmaCreditEligibility
import LibTsn.XdmaCreditRange
import LibTsn.XdmaDeviceLifecycle
import LibTsn.XdmaEarliestWindow
import LibTsn.XdmaFrameSpacing
import LibTsn.XdmaGateSafety
import LibTsn.XdmaInterruptHandler
import LibTsn.XdmaMqprio
import LibTsn.XdmaOpenMarker
import LibTsn.XdmaPaddingLeak
import LibTsn.XdmaPositiveCycle
import LibTsn.XdmaProbe
import LibTsn.XdmaPtpFrames
import LibTsn.XdmaQbvNeutral
import LibTsn.XdmaQueueProgress
import LibTsn.XdmaQueueTracker
import LibTsn.XdmaRequest
import LibTsn.XdmaSgdmaReadWrite
import LibTsn.XdmaSlotLeak
import LibTsn.XdmaSlotScan
import LibTsn.XdmaStartTime
import LibTsn.XdmaStartXmit
import LibTsn.XdmaTimelyCharge
import LibTsn.XdmaTimestampReferences
import LibTsn.XdmaTransmitOwnership
import LibTsn.XdmaWorkTick
import LibTsn.XdmaZeroSlope
