/-
This file lists the ways in which a system refuses a connection or a listener.
-/

namespace NodeBridge.Network

/-- Nobody listens, the address is taken or foreign, or the system has no sockets. -/
inductive NetworkError where
  | refused
  | addressInUse
  | addressNotAvailable
  | notSupported
  deriving DecidableEq

namespace NetworkError

def number : NetworkError → Nat
  | refused => 111
  | addressInUse => 98
  | addressNotAvailable => 99
  | notSupported => 95

def description : NetworkError → String
  | refused => "Connection refused"
  | addressInUse => "Address already in use"
  | addressNotAvailable => "Cannot assign requested address"
  | notSupported => "Operation not supported"

def message (error : NetworkError) : String :=
  error.description ++ " (os error " ++ toString error.number ++ ")"

end NetworkError

end NodeBridge.Network
