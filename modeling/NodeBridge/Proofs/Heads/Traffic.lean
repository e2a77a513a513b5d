import NodeBridge.Heads.Subscription
import NodeBridge.Proofs.Heads.Client
import NodeBridge.Proofs.Heads.Reading
import Mathlib.Logic.Relation

/-
This file takes the work of a client apart into deeds that may come in any order.
A reply may come long after its request or never, so a node is free to answer late.
What a broadcast carries changes only by announcements, whatever else is done.
-/

namespace NodeBridge.Heads

/-- The client sends an instruction or tries to connect, and the other side replies, announces or
breaks the connection. The node may change at any time. -/
inductive Deed where
  | send
  | reply (request : Nat) (outcome : Connection.Outcome)
  | announce (server : ServerId) (notice : Notice)
  | lose (now : Nat)
  | reconnect (now : Nat)
  | supply (node : Node)

namespace Client

/-- Only the first instruction is sent, and its reply is left to come. -/
def sendNext (client : Client) : Client :=
  match client.link, client.queue with
  | .connected, instruction :: rest => ({ client with queue := rest }.perform instruction).2
  | _, _ => client

def undergo (client : Client) : Deed → Client
  | .send => client.sendNext
  | .reply request outcome => client.handleReply request outcome
  | .announce server notice => client.notify server notice
  | .lose now => client.lose now
  | .reconnect now => client.reconnect now
  | .supply node => { client with node }

/-- A reply comes over a connection on which its request is no longer waiting to be sent. -/
def Allows (client : Client) : Deed → Prop
  | .reply request _ => client.link = .connected ∧ .subscribe request ∉ client.queue
  | _ => True

/-- One allowed deed leads from the first client to the second. -/
def Does (before after : Client) : Prop :=
  ∃ deed, before.Allows deed ∧ before.undergo deed = after

/-- A course is any number of allowed deeds in a row. -/
abbrev Course : Client → Client → Prop := Relation.ReflTransGen Does

section Serving

variable {client : Client}

theorem queueGrant (request : Nat) (server : ServerId) (client : Client) :
    (client.grant request server).queue = client.queue := by
  unfold grant
  split <;> rfl

theorem queueHandleReply (request : Nat) (outcome : Connection.Outcome) (client : Client) :
    (client.handleReply request outcome).queue = client.queue := by
  unfold handleReply
  split
  · dsimp only
    split
    · split
      · exact queueGrant _ _ _
      · rfl
    all_goals rfl
  · rfl

theorem forgetBehind (queue : List Instruction) (client : Client) :
    { client with queue }.forget = { client.forget with queue } := by
  cases shared : client.shared <;> simp [forget, shared, changeBroadcast]

/-- What is sent does not depend on what waits behind it. -/
theorem performBehind (queue : List Instruction) (instruction : Instruction) (client : Client) :
    ({ client with queue }.perform instruction).2 =
      { (client.perform instruction).2 with queue } := by
  cases instruction with
  | subscribe request =>
      simp only [perform, sendSubscribe, insertFlight]
      split <;> rfl
  | unsubscribe =>
      cases named : client.shared.bind Shared.server with
      | none => simpa only [perform, sendUnsubscribe, named] using forgetBehind queue client
      | some server =>
          have told := forgetBehind queue { client with node := client.node.unsubscribe server }
          simpa only [perform, sendUnsubscribe, named] using told

theorem queuePerform (instruction : Instruction) (client : Client) :
    (client.perform instruction).2.queue = client.queue := by
  have same := performBehind client.queue instruction client
  exact (congrArg queue same : _)

/-- Everything that waits is sent one by one. -/
theorem courseOfSending (queue : List Instruction) (client : Client)
    (connected : client.link = .connected) (idle : client.queue = []) :
    Course { client with queue } (performAll queue client).2 := by
  induction queue generalizing client with
  | nil =>
      have same : { client with queue := [] } = client := by rw [← idle]
      exact same ▸ .refl
  | cons instruction rest inductionHypothesis =>
      have sent : Does { client with queue := instruction :: rest }
          { (client.perform instruction).2 with queue := rest } := by
        refine ⟨.send, trivial, ?_⟩
        rw [← performBehind]
        simp only [undergo, sendNext, connected]
      refine .head sent (inductionHypothesis _ ?_ ?_)
      · rw [linkPerform, connected]
      · rw [queuePerform, idle]

/-- The replies that have come are read one by one. -/
theorem courseOfReplies (replies : List (Nat × Connection.Outcome))
    (connected : client.link = .connected) (idle : client.queue = []) :
    Course client (client.handleReplies replies) := by
  induction replies generalizing client with
  | nil => exact .refl
  | cons reply rest inductionHypothesis =>
      have read : Does client (client.handleReply reply.1 reply.2) :=
        ⟨.reply reply.1 reply.2, ⟨connected, by simp [idle]⟩, rfl⟩
      refine .head read (inductionHypothesis ?_ ?_)
      · rw [linkHandleReply, connected]
      · rw [queueHandleReply, idle]

theorem queuePerformAll (instructions : List Instruction) (client : Client) :
    (performAll instructions client).2.queue = client.queue := by
  induction instructions generalizing client with
  | nil => rfl
  | cons instruction rest inductionHypothesis =>
      exact (inductionHypothesis _).trans (queuePerform instruction client)

/-- All the work of a client at one moment is such a course. -/
theorem courseOfServing (now : Nat) (client : Client) : Course client (client.serve now) := by
  have tried : Course client (client.reconnect now) :=
    .single ⟨.reconnect now, trivial, rfl⟩
  unfold serve
  dsimp only
  split
  case h_2 => exact tried
  case h_1 connected =>
    have sent := courseOfSending (client.reconnect now).queue
      { client.reconnect now with queue := [] } connected rfl
    refine tried.trans (sent.trans (courseOfReplies _ ?_ ?_))
    · exact (linkPerformAll _ _).trans connected
    · exact queuePerformAll _ _

end Serving

/-- An announcement is for the broadcast of the subscription that it names. -/
def audience? (server : ServerId) (client : Client) : Option Nat :=
  match client.link, client.shared with
  | .connected, some shared =>
      if shared.server = some server then some shared.broadcast else none
  | _, _ => none

/-- This is what a deed adds to the broadcast of an index. -/
def heard (index : Nat) (client : Client) : Deed → List Notice
  | .announce server notice => if client.audience? server = some index then [notice] else []
  | _ => []

/-- A request that was replied to is no longer under way. -/
def land (request : Nat) (client : Client) : Client :=
  { client with inFlight := client.inFlight.filter (· ≠ request) }

/-- A reply confirms a subscription if it names it. -/
def confirmed? : Connection.Outcome → Option ServerId
  | .result value => ServerId.ofJson? value
  | _ => none

/-- A deed does one of these things, each under its conditions. -/
inductive DeedStep (client : Client) : Deed → Client → Prop where
  | idle {deed : Deed} (unheard : ∀ index, client.heard index deed = [])
      (unconfirmed : ∀ request outcome, deed = .reply request outcome →
        request ∈ client.inFlight → outcome = .silent)
      (unlost : ∀ now, deed = .lose now → client.link ≠ .connected)
      (unsent : deed = .send → client.link = .connected → client.queue = []) :
      DeedStep client deed client
  | subscribe {request : Nat} {rest : List Instruction} {inFlight : List Nat} (node : Node)
      (connected : client.link = .connected) (first : client.queue = .subscribe request :: rest)
      (added : ∀ other, other ∈ inFlight ↔ other = request ∨ other ∈ client.inFlight) :
      DeedStep client .send { client with node, queue := rest, inFlight }
  | unsubscribe {rest : List Instruction} (node : Node)
      (connected : client.link = .connected) (first : client.queue = .unsubscribe :: rest) :
      DeedStep client .send { client with node, queue := rest }.forget
  | grant {request : Nat} {outcome : Connection.Outcome} {server : ServerId}
      (awaited : request ∈ client.inFlight) (confirmed : confirmed? outcome = some server) :
      DeedStep client (.reply request outcome) ((client.land request).grant request server)
  | fail {request : Nat} {outcome : Connection.Outcome} (reason : String)
      (awaited : request ∈ client.inFlight) (unconfirmed : confirmed? outcome = none) :
      DeedStep client (.reply request outcome) ((client.land request).answer request (.error reason))
  | hear {server : ServerId} {notice : Notice} {index : Nat}
      (audience : client.audience? server = some index) :
      DeedStep client (.announce server notice) (client.changeBroadcast index (Broadcast.send notice))
  | lose {now : Nat} (connected : client.link = .connected) :
      DeedStep client (.lose now) { client with link := .retrying now 0 }
  | resume {now : Nat} (node : Node) (retrying : client.link ≠ .connected)
      (going : client.link ≠ .gone) :
      DeedStep client (.reconnect now) { client with node }.resume
  | giveUp {now : Nat} (node : Node) (retrying : client.link ≠ .connected) :
      DeedStep client (.reconnect now) { client with node }.giveUp
  | refuse {now due refused : Nat} (node : Node) (retrying : client.link ≠ .connected)
      (going : client.link ≠ .gone) :
      DeedStep client (.reconnect now) { client with node, link := .retrying due refused }
  | supply (node : Node) : DeedStep client (.supply node) { client with node }

section Cases

/-- A request that goes out is under way, and nothing else changes. -/
theorem insertFlightShape (request : Nat) (client : Client) :
    ∃ inFlight, client.insertFlight request = { client with inFlight } ∧
      ∀ other, other ∈ inFlight ↔ other = request ∨ other ∈ client.inFlight := by
  unfold insertFlight
  split
  case isTrue there =>
    refine ⟨client.inFlight, rfl, fun other => ⟨.inr, ?_⟩⟩
    rintro (rfl | found)
    · simpa using there
    · exact found
  case isFalse =>
    refine ⟨_, rfl, fun other => ?_⟩
    have parts : other ∈ client.inFlight ↔ other ∈ client.inFlight.takeWhile (· < request) ∨
        other ∈ client.inFlight.dropWhile (· < request) := by
      rw [← List.mem_append, List.takeWhile_append_dropWhile]
    simp only [List.mem_append, List.mem_cons, parts]
    exact or_left_comm

variable (client : Client)

theorem sendCases : client.DeedStep .send client.sendNext := by
  have waits (same : client.sendNext = client)
      (unsent : client.link = .connected → client.queue = []) :
      client.DeedStep .send client.sendNext := by
    rw [same]
    exact .idle (fun _ => rfl) nofun nofun fun _ => unsent
  cases connected : client.link with
  | retrying due refused => exact waits (by simp only [sendNext, connected]) (by simp [connected])
  | gone => exact waits (by simp only [sendNext, connected]) (by simp [connected])
  | connected =>
      cases first : client.queue with
      | nil => exact waits (by simp only [sendNext, connected, first]) fun _ => first
      | cons instruction rest =>
          have sent : client.sendNext = ({ client with queue := rest }.perform instruction).2 := by
            simp only [sendNext, connected, first]
          rw [sent]
          cases instruction with
          | subscribe request =>
              obtain ⟨inFlight, same, added⟩ := insertFlightShape request
                { client with node := client.node.subscribe.2, queue := rest }
              simp only [perform, sendSubscribe, same]
              exact .subscribe _ connected first added
          | unsubscribe =>
              cases named : client.shared.bind Shared.server with
              | none =>
                  simp only [perform, sendUnsubscribe, named]
                  exact .unsubscribe client.node connected first
              | some server =>
                  simp only [perform, sendUnsubscribe, named]
                  exact .unsubscribe _ connected first

theorem replyCases (request : Nat) (outcome : Connection.Outcome) :
    client.DeedStep (.reply request outcome) (client.handleReply request outcome) := by
  unfold handleReply
  split
  case isFalse foreign =>
    refine .idle (fun _ => rfl) (fun _ _ same awaited => ?_) nofun nofun
    cases same
    simp_all
  case isTrue found =>
    have awaited : request ∈ client.inFlight := by simpa using found
    dsimp only
    split
    case h_1 value =>
      split
      case h_1 server named => exact .grant awaited named
      case h_2 unnamed => exact .fail _ awaited unnamed
    case h_4 => exact .idle (fun _ => rfl) (fun _ _ same _ => by cases same; rfl) nofun nofun
    all_goals exact .fail _ awaited rfl

theorem announceCases (server : ServerId) (notice : Notice) :
    client.DeedStep (.announce server notice) (client.notify server notice) := by
  have lost (same : client.notify server notice = client)
      (nobody : client.audience? server = none) :
      client.DeedStep (.announce server notice) (client.notify server notice) := by
    rw [same]
    exact .idle (fun _ => by simp [heard, nobody]) nofun nofun nofun
  cases link : client.link with
  | retrying due refused => exact lost (by simp only [notify, link]) (by simp only [audience?, link])
  | gone => exact lost (by simp only [notify, link]) (by simp only [audience?, link])
  | connected =>
      cases found : client.shared with
      | none => exact lost (by simp only [notify, link, found]) (by simp only [audience?, link, found])
      | some shared =>
          by_cases own : shared.server = some server
          · have audience : client.audience? server = some shared.broadcast := by
              simp only [audience?, link, found, own, if_true]
            have same : client.notify server notice =
                client.changeBroadcast shared.broadcast (Broadcast.send notice) := by
              simp only [notify, link, found, own, if_true]
            exact same ▸ .hear audience
          · exact lost (by simp only [notify, link, found, own, if_false])
              (by simp only [audience?, link, found, own, if_false])

theorem loseCases (now : Nat) : client.DeedStep (.lose now) (client.lose now) := by
  unfold lose
  split
  case h_1 connected => exact .lose connected
  case h_2 apart =>
    exact .idle (fun _ => rfl) nofun (fun _ _ => apart) nofun

theorem reconnectCases (now : Nat) :
    client.DeedStep (.reconnect now) (client.reconnect now) := by
  unfold reconnect
  split
  case h_1 due refused retrying =>
    split
    · unfold tryConnect
      dsimp only
      split
      · exact .resume _ (by simp [retrying]) (by simp [retrying])
      · split
        · exact .giveUp _ (by simp [retrying])
        · exact .refuse _ (by simp [retrying]) (by simp [retrying])
    · exact .idle (fun _ => rfl) nofun nofun nofun
  case h_2 => exact .idle (fun _ => rfl) nofun nofun nofun

theorem deedCases (deed : Deed) : client.DeedStep deed (client.undergo deed) := by
  cases deed with
  | send => exact client.sendCases
  | reply request outcome => exact client.replyCases request outcome
  | announce server notice => exact client.announceCases server notice
  | lose now => exact client.loseCases now
  | reconnect now => exact client.reconnectCases now
  | supply node => exact .supply node

end Cases

/-- An instruction that is accepted waits behind the others, and nothing else changes. -/
theorem instructShape {instruction : Instruction} {client next : Client}
    (accepted : client.instruct instruction = some next) :
    next = { client with queue := client.queue ++ [instruction] } := by
  unfold instruct at accepted
  split at accepted
  · contradiction
  · exact (Option.some.inj accepted).symm

/-- A subscription that ends is no longer shared, and its broadcast stays in its place. -/
theorem forgetShape (client : Client) :
    ∃ broadcasts, client.forget = { client with shared := none, broadcasts } ∧
      broadcasts.length = client.broadcasts.length := by
  cases found : client.shared with
  | none => exact ⟨client.broadcasts, by simp only [forget, found]; rw [← found], rfl⟩
  | some shared =>
      exact ⟨client.broadcasts.modify shared.broadcast Broadcast.close,
        by simp only [forget, found]; rfl, List.length_modify _ _ _⟩

/-- A grant names the shared subscription anew or begins it, and it answers the request. -/
theorem grantShape (request : Nat) (server : ServerId) (client : Client) :
    ∃ handle shared broadcasts,
      client.grant request server = { client with
        shared := some shared, broadcasts
        answers := client.answers ++ [(request, .ok handle)] } ∧
      shared.server = some server ∧ handle.broadcast = shared.broadcast ∧
      (broadcasts = client.broadcasts ∧
          (∃ before, client.shared = some before ∧ shared.request = before.request ∧
            shared.broadcast = before.broadcast) ∨
        broadcasts = client.broadcasts ++ [{ limit := bufferLimit }] ∧ shared.request = request ∧
          shared.broadcast = client.broadcasts.length) := by
  unfold grant
  cases found : client.shared with
  | some before => exact ⟨_, _, _, rfl, rfl, rfl, .inl ⟨rfl, before, rfl, rfl, rfl⟩⟩
  | none => exact ⟨_, _, _, rfl, rfl, rfl, .inr ⟨rfl, rfl, rfl⟩⟩

/-- The broadcast of an index carries all these announcements. -/
def Carries (index limit : Nat) (all : List Notice) (client : Client) : Prop :=
  ∃ broadcast, client.broadcasts[index]? = some broadcast ∧ broadcast.Carries limit all

namespace Carries

variable {client later : Client} {index limit : Nat} {all : List Notice}

theorem same (carries : client.Carries index limit all)
    (unchanged : later.broadcasts = client.broadcasts) : later.Carries index limit all := by
  obtain ⟨broadcast, found, kept⟩ := carries
  exact ⟨broadcast, unchanged ▸ found, kept⟩

/-- A subscription that ends closes its own broadcast and keeps what is there. -/
theorem forget (carries : client.Carries index limit all) :
    client.forget.Carries index limit all := by
  unfold Client.forget
  split
  · exact carries
  case h_2 shared _ =>
    obtain ⟨broadcast, found, kept⟩ := carries
    by_cases own : shared.broadcast = index
    · exact ⟨broadcast.close, by simp [changeBroadcast, own, found], kept.close⟩
    · exact ⟨broadcast, by simp [changeBroadcast, own, found], kept⟩

/-- A new subscription has a broadcast of its own. -/
theorem grant (carries : client.Carries index limit all) (request : Nat) (server : ServerId) :
    (client.grant request server).Carries index limit all := by
  unfold Client.grant
  split
  · exact carries.same rfl
  · obtain ⟨broadcast, found, kept⟩ := carries
    obtain ⟨inside, _⟩ := List.getElem?_eq_some_iff.mp found
    exact ⟨broadcast, (List.getElem?_append_left inside).trans found, kept⟩

theorem hear {other : Nat} {server : ServerId} (carries : client.Carries index limit all)
    (audience : client.audience? server = some other) (notice : Notice) :
    (client.changeBroadcast other (Broadcast.send notice)).Carries index limit
      (all ++ client.heard index (.announce server notice)) := by
  obtain ⟨broadcast, found, kept⟩ := carries
  by_cases own : other = index
  · exact ⟨broadcast.send notice, by simp [changeBroadcast, own, found],
      by simpa [heard, audience, own] using kept.send notice⟩
  · exact ⟨broadcast, by simp [changeBroadcast, own, found],
      by simpa [heard, audience, own] using kept⟩

/-- Nothing but what is heard changes what is carried. -/
theorem step {deed : Deed} (carries : client.Carries index limit all)
    (step : client.DeedStep deed later) :
    later.Carries index limit (all ++ client.heard index deed) := by
  cases step with
  | idle unheard =>
      rw [unheard, List.append_nil]
      exact carries
  | hear audience => exact carries.hear audience _
  | subscribe | fail | lose | resume | refuse | supply =>
      simp only [heard, List.append_nil]
      exact carries.same rfl
  | unsubscribe node =>
      simp only [heard, List.append_nil]
      exact forget (carries.same rfl)
  | giveUp node =>
      simp only [heard, List.append_nil]
      exact forget (carries.same rfl)
  | @grant request _ server =>
      simp only [heard, List.append_nil]
      have landed : (client.land request).Carries index limit all := carries.same rfl
      exact landed.grant request server

theorem undergo (carries : client.Carries index limit all) (deed : Deed) :
    (client.undergo deed).Carries index limit (all ++ client.heard index deed) :=
  carries.step (client.deedCases deed)

end Carries

end Client

section Asking

variable {now : Nat} {client : Client} {attempt : Attempt}
  {result : Except Observer.OpenError Handle}

/-- Whoever opens a subscription fails at once or puts a new request behind the instructions. -/
theorem beginOpenEither (pubsub : Bool) (limit : Duration) (now : Nat) (name : String)
    (client : Client) :
    (∃ error, beginOpen pubsub limit now name client = (.failed error, client)) ∨
      beginOpen pubsub limit now name client =
        (.asked client.nextRequest (now + limit.milliseconds) limit,
          { client with
            queue := client.queue ++ [.subscribe client.nextRequest]
            nextRequest := client.nextRequest + 1 }) := by
  unfold beginOpen
  split
  · exact .inl ⟨_, rfl⟩
  · split
    · exact .inl ⟨_, rfl⟩
    · dsimp only
      split
      · exact .inl ⟨_, rfl⟩
      case h_2 next accepted =>
        obtain rfl := Client.instructShape accepted
        exact .inr rfl

/-- Whoever closes a subscription puts an instruction behind the others or finds the client gone. -/
theorem closeEither (handle : Handle) (client : Client) :
    (client.link = .gone ∧ (Subscription.mk (some handle)).close client =
        (client, ⟨none⟩, [Subscription.notClosedEvent])) ∨
      (Subscription.mk (some handle)).close client =
        ({ client with queue := client.queue ++ [.unsubscribe] }, ⟨none⟩,
          [Subscription.closedEvent]) := by
  cases link : client.link with
  | gone => exact .inl ⟨rfl, by simp only [Subscription.close, Client.instruct, link]⟩
  | connected | retrying => exact .inr (by simp only [Subscription.close, Client.instruct, link])

/-- An attempt is complete when its request is answered or when its limit is over. -/
theorem completionCases (completed : completion? now client attempt = some result) :
    (∃ error, attempt = .failed error ∧ result = .error error) ∨
      ∃ request deadline limit, attempt = .asked request deadline limit ∧
        ((∃ handle, client.answers.lookup request = some (.ok handle) ∧ result = .ok handle) ∨
          (∃ reason, client.answers.lookup request = some (.error reason) ∧
            result = .error (.refused reason)) ∨
          result = .error (.timedOut limit)) := by
  cases attempt with
  | failed error => exact .inl ⟨error, rfl, (Option.some.inj completed).symm⟩
  | asked request deadline limit =>
      refine .inr ⟨request, deadline, limit, rfl, ?_⟩
      cases found : client.answers.lookup request with
      | some answer =>
          cases answer with
          | ok handle =>
              simp only [completion?, found] at completed
              exact .inl ⟨handle, rfl, (Option.some.inj completed).symm⟩
          | error reason =>
              simp only [completion?, found] at completed
              exact .inr (.inl ⟨reason, rfl, (Option.some.inj completed).symm⟩)
      | none =>
          simp only [completion?, found] at completed
          split at completed
          · exact .inr (.inr (Option.some.inj completed).symm)
          · contradiction

end Asking

end NodeBridge.Heads
