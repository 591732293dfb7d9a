/-!
# Status of a radio

The eight states of the medium access machine, and the names they have in traces and reports.
-/

namespace CarrierSense

/-- What a radio is doing. -/
inductive Status where
  | idle
  | waitingForDifs
  | waitingForBackoff
  | sendingMessage
  | waitingForAck
  | receivingMessage
  | waitingForSifs
  | sendingAck
  deriving DecidableEq, Repr, Inhabited

namespace Status

/-- The name of a status in traces and reports. -/
def name : Status → String
  | idle => "IDLE"
  | waitingForDifs => "WAITING_FOR_DIFS"
  | waitingForBackoff => "WAITING_FOR_BACKOFF"
  | sendingMessage => "SENDING_MESSAGE"
  | waitingForAck => "WAITING_FOR_ACK"
  | receivingMessage => "RECEIVING_MESSAGE"
  | waitingForSifs => "WAITING_FOR_SIFS"
  | sendingAck => "SENDING_ACK"

/-- A radio that transmits, or is committed to an acknowledgement, cannot hear the medium. -/
@[simp] def isDeaf : Status → Bool
  | sendingMessage | sendingAck | waitingForSifs => true
  | _ => false

/-- Every status, in the order of their numbers. -/
def all : List Status :=
  [idle, waitingForDifs, waitingForBackoff, sendingMessage, waitingForAck, receivingMessage,
    waitingForSifs, sendingAck]

/-- No status is missing from the list. -/
theorem mem_all (s : Status) : s ∈ all := by
  cases s <;> decide

/-- Different statuses have different names. -/
theorem name_injective {s t : Status} (h : s.name = t.name) : s = t := by
  cases s <;> cases t <;> simp_all [name]

end Status

end CarrierSense
