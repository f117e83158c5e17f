import NodeRdkafka.Lib.Reach
import NodeRdkafka.Lib.Mailbox
import NodeRdkafka.Lib.Double
import NodeRdkafka.Lib.Utf8
import NodeRdkafka.Lib.Lists
import NodeRdkafka.ErrorCode
import NodeRdkafka.JsValue
import NodeRdkafka.Errors
import NodeRdkafka.LibrdKafkaError
import NodeRdkafka.LibrdKafkaErrorPaths
import NodeRdkafka.Message
import NodeRdkafka.ConsumeNum
import NodeRdkafka.ConsumeNumOrder
import NodeRdkafka.ConsumeNumEofs
import NodeRdkafka.DeliveryReport
import NodeRdkafka.DeliveryReportDispatcher
import NodeRdkafka.DeliveryReportOrder
import NodeRdkafka.HighLevelProducer
import NodeRdkafka.Lib.Attempts
import NodeRdkafka.ProduceCall
import NodeRdkafka.ProduceOnce
import NodeRdkafka.ProduceReports
import NodeRdkafka.ProduceResults
import NodeRdkafka.PollingCounter
import NodeRdkafka.PollingAwaited
import NodeRdkafka.PollingInterval
import NodeRdkafka.ProduceCallbacks
import NodeRdkafka.ProducerStream
import NodeRdkafka.ProducerStreamWritev
import NodeRdkafka.ProducerStreamReady
import NodeRdkafka.ProducerStreamClose
import NodeRdkafka.Client
import NodeRdkafka.ClientCallbacks
import NodeRdkafka.ProducerPolling
import NodeRdkafka.ErrorChannels
import NodeRdkafka.EventDispatcher
import NodeRdkafka.KafkaConsumerStream
import NodeRdkafka.KafkaConsumerStreamOrder
import NodeRdkafka.KafkaConsumerStreamEnd
import NodeRdkafka.TopicPartition
import NodeRdkafka.TopicPartitionArrays
import NodeRdkafka.DeliveryReportCycles
import NodeRdkafka.NodeProduce
import NodeRdkafka.MessageRoundTrip
import NodeRdkafka.OpaqueHandles
import NodeRdkafka.ProducerDisconnect
import NodeRdkafka.ProducerTransactions
import NodeRdkafka.ConsumeLoop
import NodeRdkafka.ConsumeLoopOrder
import NodeRdkafka.ConsumeLoopEnd
import NodeRdkafka.KafkaConsumer
import NodeRdkafka.KafkaConsumerAssignments
import NodeRdkafka.AssignedPartitions
import NodeRdkafka.NativeConnect
import NodeRdkafka.KafkaConsumerSessions
import NodeRdkafka.Rebalance
import NodeRdkafka.RebalanceOrder
import NodeRdkafka.RebalanceClosing
import NodeRdkafka.ClientConnect
import NodeRdkafka.ClientDisconnect
import NodeRdkafka.KafkaConsumerConnection
import NodeRdkafka.KafkaConsumerDisconnect
import NodeRdkafka.HandleUse
import NodeRdkafka.RefCounterCalls
import NodeRdkafka.Lib.DoubleQuotient
import NodeRdkafka.PollForEvent
import NodeRdkafka.PollTimers
import NodeRdkafka.PartitionEntries
import NodeRdkafka.StreamClosing
import NodeRdkafka.Lib.LockedThreads
import NodeRdkafka.ConnectionThreads
import NodeRdkafka.ProducerThreads
import NodeRdkafka.KafkaConsumerThreads
import NodeRdkafka.ProducePipeline
import NodeRdkafka.ConsumePipeline
import NodeRdkafka.Lib.DoubleSuccessor
import NodeRdkafka.CommitMessage
import NodeRdkafka.Lib.Ledger
import NodeRdkafka.AdminClient
import NodeRdkafka.AdminClientAnswers
import NodeRdkafka.AdminClientLedger
import NodeRdkafka.Lib.WorkerPool
import NodeRdkafka.ClientRequests
import NodeRdkafka.ClientRequestsAnswered
import NodeRdkafka.DispatcherSessions
import NodeRdkafka.OffsetCommits
import NodeRdkafka.PartitionHeap
import NodeRdkafka.OauthTokens
import NodeRdkafka.ClientConstructor
