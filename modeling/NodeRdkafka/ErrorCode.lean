import Mathlib.Data.List.Basic

namespace NodeRdkafka

/-- An RdKafka::ErrorCode: internal codes lie strictly between `errBegin`
and `errEnd`, broker codes start at `errUnknown`. -/
abbrev ErrorCode := Int

namespace ErrorCode

def errBegin : ErrorCode := -200
def errPartitionEof : ErrorCode := -191
def errAllBrokersDown : ErrorCode := -187
def errInvalidArg : ErrorCode := -186
def errTimedOut : ErrorCode := -185
def errQueueFull : ErrorCode := -184
def errAssignPartitions : ErrorCode := -175
def errRevokePartitions : ErrorCode := -174
def errConflict : ErrorCode := -173
def errState : ErrorCode := -172
def errTimedOutQueue : ErrorCode := -166
def errEnd : ErrorCode := -100
def errUnknown : ErrorCode := -1
def errNoError : ErrorCode := 0
def errUnknownTopicOrPart : ErrorCode := 3
def errTopicException : ErrorCode := 17
def errTopicAuthorizationFailed : ErrorCode := 29

@[simp] theorem errPartitionEof_ne : errPartitionEof ≠ errNoError := by decide

end ErrorCode
end NodeRdkafka
