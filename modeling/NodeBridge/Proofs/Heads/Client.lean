import NodeBridge.Heads.Client

/-
This file shows what becomes of the connection when the client does its work.
Only an attempt to connect changes the connection, and a client that has done its work
has nothing more to do at this moment.
-/

namespace NodeBridge.Heads.Client

variable {client : Client} {now due : Nat}

@[simp] theorem linkAnswer (request : Nat) (result : Except String Handle) (client : Client) :
    (client.answer request result).link = client.link := rfl

@[simp] theorem linkInsertFlight (request : Nat) (client : Client) :
    (client.insertFlight request).link = client.link := by
  unfold insertFlight
  split <;> rfl

@[simp] theorem linkForget (client : Client) : client.forget.link = client.link := by
  unfold forget
  split <;> rfl

theorem linkGrant (request : Nat) (server : ServerId) (client : Client) :
    (client.grant request server).link = client.link := by
  unfold grant
  split <;> rfl

theorem linkHandleReply (request : Nat) (outcome : Connection.Outcome) (client : Client) :
    (client.handleReply request outcome).link = client.link := by
  unfold handleReply
  split
  · dsimp only
    split
    · split
      · exact linkGrant _ _ _
      · rfl
    all_goals rfl
  · rfl

theorem linkHandleReplies (replies : List (Nat × Connection.Outcome)) (client : Client) :
    (client.handleReplies replies).link = client.link := by
  induction replies generalizing client with
  | nil => rfl
  | cons reply rest inductionHypothesis =>
      exact (inductionHypothesis _).trans (linkHandleReply _ _ _)

theorem linkPerform (instruction : Instruction) (client : Client) :
    (client.perform instruction).2.link = client.link := by
  cases instruction with
  | subscribe request => exact linkInsertFlight request _
  | unsubscribe =>
      simp only [perform, sendUnsubscribe]
      split <;> simp

theorem linkPerformAll (instructions : List Instruction) (client : Client) :
    (performAll instructions client).2.link = client.link := by
  induction instructions generalizing client with
  | nil => rfl
  | cons instruction rest inductionHypothesis =>
      exact (inductionHypothesis _).trans (linkPerform instruction client)

/-- Serving changes the connection only by trying to connect. -/
theorem linkServe (now : Nat) (client : Client) :
    (client.serve now).link = (client.reconnect now).link := by
  unfold serve
  dsimp only
  split
  · exact (linkHandleReplies _ _).trans (linkPerformAll _ _)
  · rfl

/-- The next try to connect is later than the one that has just been made. -/
theorem dueTryConnect (refused : Nat) (found : (client.tryConnect now refused).due? = some due) :
    now < due := by
  unfold tryConnect at found
  dsimp only at found
  split at found
  · contradiction
  · split at found
    · simp [due?, giveUp] at found
    · have pause : now + retryPause = due := Option.some.inj found
      have positive : 0 < retryPause := by decide
      omega

/-- After its work the client has nothing to do before a later time. -/
theorem dueServe (found : (client.serve now).due? = some due) : now < due := by
  have same : (client.serve now).due? = (client.reconnect now).due? := by
    simp only [due?, linkServe]
  rw [same] at found
  unfold reconnect at found
  split at found
  case h_1 later refused retrying =>
    split at found
    · exact dueTryConnect refused found
    · simp only [due?, retrying, Option.some.injEq] at found
      omega
  case h_2 idle =>
    unfold due? at found
    split at found
    case h_1 retrying => exact absurd retrying (idle _ _)
    case h_2 => contradiction

end NodeBridge.Heads.Client
