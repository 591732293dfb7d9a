import CarrierSense.Scheduler

/-!
# Errors of the simulated network

Collisions are not errors: the medium access deals with them. What is left are faults of the set-up,
which surface where they are met, and misuse of the scheduler.
-/

namespace CarrierSense

/-- Why a network refused an operation. -/
inductive NetworkError where
  /-- The source `node` has nobody to send to. -/
  | noDestination (node : String)
  /-- The node has no interface to send with. -/
  | noInterface (node : String)
  /-- The grid routing knows no next hop. -/
  | noRoute (iface destination : String)
  /-- The medium has no member that could be a next hop. -/
  | emptyMedium (medium : String)
  /-- The node produces no traffic. -/
  | notASource (node : String)
  | scheduler (error : SchedulerError)
  deriving DecidableEq, Repr

namespace NetworkError

/-- The wording of an error. -/
def message : NetworkError → String
  | noDestination node => "Node " ++ node ++ " messages have no destination"
  | noInterface node => "Node " ++ node ++ " has no network interface"
  | noRoute iface destination =>
    "Interface " ++ iface ++ " has no route towards " ++ destination
  | emptyMedium medium => "Medium " ++ medium ++ " is empty"
  | notASource node => "Node " ++ node ++ " is not a traffic source"
  | scheduler error => "Scheduler error: " ++ error.message

/-- The error beneath this one. -/
def cause? : NetworkError → Option SchedulerError
  | scheduler error => some error
  | _ => none

/-- Whether the error only says that the simulation has come to rest. -/
def isQuiescent : NetworkError → Bool
  | scheduler .noMoreEvents => true
  | _ => false

end NetworkError

end CarrierSense
