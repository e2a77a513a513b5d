import NodeBridge.Proofs.Heads.Reception
import Mathlib.Data.List.Induction

/-
This file follows one subscription through everything that can happen to it.
Its reader gets the announced headers in their order and is told the length of every gap,
and however often the subscription is closed, its end is asked for once.
-/

namespace NodeBridge.Heads

open Observer

/-- Other users of a client open and close subscriptions, and the rest is done by deeds. -/
inductive Act where
  | deed (deed : Deed)
  | ask (pubsub : Bool) (limit : Duration) (now : Nat) (name : String)
  | dismiss (subscription : Subscription)

/-- Nothing but headers is announced. -/
def Act.Formed : Act → Prop
  | .deed (.announce _ notice) => ∃ header, notice = .header header
  | _ => True

/-- A header is announced to the readers of a broadcast. -/
def Act.headers (index : Nat) (client : Client) : Act → List Header
  | .deed (.announce server (.header header)) =>
      if client.audience? server = some index then [header] else []
  | _ => []

def Client.act (client : Client) : Act → Client
  | .deed deed => client.undergo deed
  | .ask pubsub limit now name => (beginOpen pubsub limit now name client).2
  | .dismiss subscription => (subscription.close client).1

/-- The holder of a subscription asks for the next header, looks once or closes. -/
inductive Turn where
  | others (act : Act)
  | receive
  | look
  | close

def Turn.Formed : Turn → Prop
  | .others act => act.Formed
  | _ => True

/-- A vigil remembers what was announced, what was found and what closing did. -/
structure Vigil where
  client : Client
  subscription : Subscription
  pushed : List Header := []
  report : List (Delivery Header) := []
  closes : Nat := 0
  closings : List Event := []
  lodged : Nat := 0

/-- What is returned is a header or the end. -/
def deliveryOf : Except StreamError Header → Delivery Header
  | .ok header => .item header
  | .error error => .failure error

namespace Vigil

/-- An announcement counts as long as the subscription is held. -/
def hears (act : Act) (vigil : Vigil) : List Header :=
  match vigil.subscription.handle with
  | some handle => act.headers handle.broadcast vigil.client
  | none => []

def take (vigil : Vigil) : Turn → Vigil
  | .others act =>
      { vigil with
        client := vigil.client.act act
        pushed := vigil.pushed ++ vigil.hears act }
  | .receive =>
      let (result, subscription, events) := vigil.subscription.receive vigil.client
      { vigil with
        subscription
        report := vigil.report ++ events.map .remark ++ (result.map deliveryOf).toList }
  | .look =>
      let (delivery, subscription) := vigil.subscription.look vigil.client
      { vigil with subscription, report := vigil.report ++ delivery.toList }
  | .close =>
      let (client, subscription, events) := vigil.subscription.close vigil.client
      { vigil with
        client, subscription
        closes := vigil.closes + 1
        closings := vigil.closings ++ events
        lodged := vigil.lodged + (client.queue.length - vigil.client.queue.length) }

def run (turns : List Turn) (vigil : Vigil) : Vigil := turns.foldl take vigil

end Vigil

section Report

/-- Headers that were returned and gaps that were counted follow each other as announced. -/
inductive Tells : List (Delivery Header) → List Header → Prop where
  | nothing : Tells [] []
  | header {report : List (Delivery Header)} {told : List Header} (before : Tells report told)
      (header : Header) : Tells (report ++ [.item header]) (told ++ [header])
  | gap {report : List (Delivery Header)} {told : List Header} (before : Tells report told)
      {missed : List Header} (some : missed ≠ []) :
      Tells (report ++ [.remark (Subscription.lagEvent missed.length)]) (told ++ missed)
  | ended {report : List (Delivery Header)} {told : List Header} (before : Tells report told) :
      Tells (report ++ [.failure .closed]) told

def returned (report : List (Delivery Header)) : List Header :=
  report.filterMap fun delivery =>
    match delivery with
    | .item header => some header
    | _ => none

/-- The length of a gap is read off the warning. -/
def gapOf (event : Event) : Nat :=
  match event.fields.lookup "skipped" with
  | some (.number count) => count
  | _ => 0

/-- All warnings together count the headers that are missing. -/
def skipped : List (Delivery Header) → Nat
  | [] => 0
  | .remark event :: rest => gapOf event + skipped rest
  | _ :: rest => skipped rest

/-- A header follows directly behind every warning, so a gap has one warning. -/
def Paired : List (Delivery Header) → Prop
  | [] => True
  | .remark _ :: .item _ :: rest => Paired rest
  | .remark _ :: _ => False
  | _ :: rest => Paired rest

variable {report : List (Delivery Header)} {told : List Header}

theorem gapOfLag (count : Nat) : gapOf (Subscription.lagEvent count) = count := rfl

theorem skippedAppend (report more : List (Delivery Header)) :
    skipped (report ++ more) = skipped report + skipped more := by
  fun_induction skipped report <;> simp_all [skipped, Nat.add_assoc]

/-- A gap is reported once, and where nothing is missing nothing is reported. -/
theorem Tells.catchUp (tells : Tells report told) (missed : List Header) :
    Tells (report ++ (if missed.length = 0 then []
        else [Subscription.lagEvent missed.length]).map .remark) (told ++ missed) := by
  cases missed with
  | nil => simpa using tells
  | cons header rest => exact tells.gap (List.cons_ne_nil header rest)

theorem Tells.inOrder (tells : Tells report told) : (returned report).Sublist told := by
  induction tells with
  | nothing => exact .slnil
  | header _ header inductionHypothesis =>
      simpa [returned] using inductionHypothesis.append (List.Sublist.refl [header])
  | gap _ _ inductionHypothesis =>
      simpa [returned] using inductionHypothesis.trans (List.sublist_append_left _ _)
  | ended _ inductionHypothesis => simpa [returned] using inductionHypothesis

theorem Tells.balanced (tells : Tells report told) :
    (returned report).length + skipped report = told.length := by
  induction tells with
  | nothing => rfl
  | header _ header inductionHypothesis =>
      simp only [returned] at inductionHypothesis
      simp [returned, skippedAppend, skipped]
      omega
  | gap _ _ inductionHypothesis =>
      simp only [returned] at inductionHypothesis
      simp [returned, skippedAppend, skipped, gapOfLag]
      omega
  | ended _ inductionHypothesis =>
      simp only [returned] at inductionHypothesis
      simp [returned, skippedAppend, skipped]
      omega

theorem Paired.append {more : List (Delivery Header)} (first : Paired report)
    (second : Paired more) : Paired (report ++ more) := by
  fun_induction Paired report <;> simp_all [Paired]

end Report

section Others

variable {client : Client} {handle : Handle} {limit : Nat} {pending : List Header}

/-- Whoever opens or closes a subscription puts an instruction into the queue at most. -/
theorem beginOpenShape (pubsub : Bool) (limit : Duration) (now : Nat) (name : String)
    (client : Client) : ∃ queue nextRequest,
      (beginOpen pubsub limit now name client).2 = { client with queue, nextRequest } := by
  rcases beginOpenEither pubsub limit now name client with ⟨error, failed⟩ | asked
  · exact ⟨_, _, congrArg Prod.snd failed⟩
  · exact ⟨_, _, congrArg Prod.snd asked⟩

theorem closeShape (subscription : Subscription) (client : Client) :
    ∃ queue, (subscription.close client).1 = { client with queue } := by
  obtain ⟨_ | handle⟩ := subscription
  · exact ⟨_, rfl⟩
  · rcases closeEither handle client with ⟨_, declined⟩ | accepted
    · exact ⟨_, congrArg Prod.fst declined⟩
    · exact ⟨_, congrArg Prod.fst accepted⟩

/-- Whatever others do, the reader awaits in addition what was announced. -/
theorem Handle.Awaits.act {act : Act} (awaits : handle.Awaits limit pending client)
    (formed : act.Formed) :
    handle.Awaits limit (pending ++ act.headers handle.broadcast client) (client.act act) := by
  cases act with
  | deed deed =>
      refine awaits.undergo ?_
      cases deed with
      | announce server notice =>
          obtain ⟨header, rfl⟩ := formed
          simp only [Client.heard, Act.headers]
          split <;> rfl
      | _ => rfl
  | ask pubsub limit now name =>
      obtain ⟨queue, nextRequest, same⟩ := beginOpenShape pubsub limit now name client
      simp only [Act.headers, List.append_nil, Client.act, same]
      exact awaits.same rfl
  | dismiss subscription =>
      obtain ⟨queue, same⟩ := closeShape subscription client
      simp only [Act.headers, List.append_nil, Client.act, same]
      exact awaits.same rfl

end Others

/-- The report tells of all headers up to the place of the reader, and the rest is awaited. -/
def Standing (limit : Nat) (report : List (Delivery Header)) (pushed : List Header)
    (client : Client) (handle : Handle) : Prop :=
  ∃ told pending, Tells report told ∧ pushed = told ++ pending ∧ handle.Awaits limit pending client

namespace Standing

variable {limit : Nat} {report : List (Delivery Header)} {pushed : List Header} {client : Client}
  {handle : Handle}

theorem tells (standing : Standing limit report pushed client handle) :
    ∃ told, Tells report told ∧ told <+: pushed := by
  obtain ⟨told, pending, tells, all, _⟩ := standing
  exact ⟨told, tells, pending, all.symm⟩

theorem act {act : Act} (standing : Standing limit report pushed client handle)
    (formed : act.Formed) :
    Standing limit report (pushed ++ act.headers handle.broadcast client) (client.act act)
      handle := by
  obtain ⟨told, pending, tells, rfl, awaits⟩ := standing
  exact ⟨told, _, tells, List.append_assoc _ _ _, awaits.act formed⟩

/-- A look reports what is missing, finds the next header, finds the end or finds nothing. -/
theorem look (standing : Standing limit report pushed client handle) :
    ∃ found next, (Subscription.mk (some handle)).look client = (found, ⟨some next⟩) ∧
      Standing limit (report ++ found.toList) pushed client next := by
  obtain ⟨told, pending, tells, rfl, awaits⟩ := standing
  rcases Nat.lt_or_ge limit pending.length with late | inTime
  · refine ⟨_, _, Subscription.lookBehind awaits late,
      told ++ pending.take (pending.length - limit), _, ?_, ?_, awaits.goOn _ (Nat.sub_le _ _)⟩
    · have missed : (pending.take (pending.length - limit)).length = pending.length - limit :=
        List.length_take_of_le (Nat.sub_le _ _)
      have counted := tells.catchUp (pending.take (pending.length - limit))
      rw [missed, if_neg (by omega)] at counted
      exact counted
    · rw [List.append_assoc, List.take_append_drop]
  · cases pending with
    | cons header rest =>
        refine ⟨_, _, Subscription.lookHeader awaits inTime, told ++ [header], rest,
          tells.header header, by simp, awaits.goOn 1 (Nat.succ_pos _)⟩
    | nil =>
        refine ⟨_, _, Subscription.lookNothing awaits, told, [], ?_, rfl, awaits⟩
        cases handle.ended client with
        | false => simpa using tells
        | true => exact tells.ended

/-- Receiving reports what is missing and then returns the next header, the end or nothing. -/
theorem receive (room : 0 < limit) (standing : Standing limit report pushed client handle) :
    ∃ result next events,
      (Subscription.mk (some handle)).receive client = (result, ⟨some next⟩, events) ∧
      Standing limit (report ++ events.map .remark ++ (result.map deliveryOf).toList) pushed client
        next := by
  obtain ⟨told, pending, tells, rfl, awaits⟩ := standing
  have received := Subscription.receiveAwaited awaits room
  have moved := awaits.goOn (pending.length - limit) (Nat.sub_le _ _)
  have missed : (pending.take (pending.length - limit)).length = pending.length - limit :=
    List.length_take_of_le (Nat.sub_le _ _)
  have counted := tells.catchUp (pending.take (pending.length - limit))
  rw [missed] at counted
  have whole := List.take_append_drop (pending.length - limit) pending
  cases left : pending.drop (pending.length - limit) with
  | cons header rest =>
      rw [left] at received moved whole
      refine ⟨_, _, _, received, _, rest, counted.header header, ?_, moved.goOn 1 (Nat.succ_pos _)⟩
      simp only [List.append_assoc, List.singleton_append, whole]
  | nil =>
      rw [left] at received
      refine ⟨_, _, _, received, told, pending, ?_, rfl, awaits⟩
      cases handle.ended client with
      | false => simpa using tells
      | true => simpa [deliveryOf] using tells.ended

/-- Whatever was announced was returned, is counted, is missing unnoticed or is still there. -/
theorem balanced (standing : Standing limit report pushed client handle) :
    (returned report).length + skipped report + handle.overrun client +
      (handle.buffered client).length = pushed.length := by
  obtain ⟨told, pending, tells, rfl, awaits⟩ := standing
  rw [tells.balanced, awaits.overrun, awaits.buffered, List.length_map, List.length_drop,
    List.length_append]
  omega

end Standing

/-- A call that warns returns a header. -/
theorem Receives.paired {client : Client} {handle : Handle}
    {outcome : Option (Except StreamError Header) × Subscription × List Event}
    (receives : Receives client handle outcome) :
    Paired (outcome.2.2.map .remark ++ (outcome.1.map deliveryOf).toList) := by
  by_cases kept : handle.overrun client = 0
  · rw [receives.warned, if_pos kept]
    cases outcome.1 with
    | none => trivial
    | some result => cases result <;> trivial
  · obtain ⟨header, same⟩ := receives.unfailing kept
    rw [receives.warned, if_neg kept, same]
    trivial

namespace Vigil

/-- Closing has not begun, or its one request was accepted or declined. -/
inductive Closing (vigil : Vigil) : Prop where
  | unclosed (held : vigil.subscription.handle ≠ none) (never : vigil.closes = 0)
      (silent : vigil.closings = []) (idle : vigil.lodged = 0) : Closing vigil
  | accepted (inert : vigil.subscription.handle = none) (before : 0 < vigil.closes)
      (once : vigil.closings = [Subscription.closedEvent]) (asked : vigil.lodged = 1) :
      Closing vigil
  | declined (inert : vigil.subscription.handle = none) (before : 0 < vigil.closes)
      (once : vigil.closings = [Subscription.notClosedEvent]) (idle : vigil.lodged = 0) :
      Closing vigil

/-- What has been announced is told as far as the reader has come, and the rest is awaited as long
as the subscription is held. -/
structure Sound (limit : Nat) (vigil : Vigil) : Prop where
  told : ∃ told, Tells vigil.report told ∧ told <+: vigil.pushed
  standing : ∀ handle, vigil.subscription.handle = some handle →
    Standing limit vigil.report vigil.pushed vigil.client handle
  closing : vigil.Closing

variable {limit : Nat} {vigil : Vigil}

/-- A turn that does not close leaves the state of closing alone. -/
theorem Closing.same {later : Vigil} (closing : vigil.Closing)
    (held : later.subscription.handle = none ↔ vigil.subscription.handle = none)
    (closes : later.closes = vigil.closes) (closings : later.closings = vigil.closings)
    (lodged : later.lodged = vigil.lodged) : later.Closing := by
  cases closing with
  | unclosed there never silent idle =>
      exact .unclosed (fun gone => there (held.mp gone)) (closes.trans never)
        (closings.trans silent) (lodged.trans idle)
  | accepted inert before once asked =>
      exact .accepted (held.mpr inert) (closes ▸ before) (closings.trans once) (lodged.trans asked)
  | declined inert before once idle =>
      exact .declined (held.mpr inert) (closes ▸ before) (closings.trans once) (lodged.trans idle)

theorem soundOthers {act : Act} (sound : vigil.Sound limit) (formed : act.Formed) :
    (vigil.take (.others act)).Sound limit := by
  refine ⟨?_, fun handle held => ?_, sound.closing.same Iff.rfl rfl rfl rfl⟩
  · obtain ⟨told, tells, before⟩ := sound.told
    exact ⟨told, tells, before.trans (List.prefix_append _ _)⟩
  · have heard : vigil.hears act = act.headers handle.broadcast vigil.client := by
      rw [hears, show vigil.subscription.handle = some handle from held]
    have standing := (sound.standing handle held).act formed
    rw [← heard] at standing
    exact standing

theorem soundLook (sound : vigil.Sound limit) : (vigil.take .look).Sound limit := by
  obtain ⟨client, ⟨held⟩, pushed, report, closes, closings, lodged⟩ := vigil
  cases held with
  | none =>
      obtain ⟨told, tells, before⟩ := sound.told
      exact ⟨⟨told, tells.ended, before⟩, nofun, sound.closing.same Iff.rfl rfl rfl rfl⟩
  | some handle =>
      obtain ⟨found, next, looked, standing⟩ := (sound.standing handle rfl).look
      simp only [take, looked]
      exact ⟨standing.tells, fun _ same => Option.some.inj same ▸ standing,
        sound.closing.same (by simp) rfl rfl rfl⟩

theorem soundReceive (room : 0 < limit) (sound : vigil.Sound limit) :
    (vigil.take .receive).Sound limit := by
  obtain ⟨client, ⟨held⟩, pushed, report, closes, closings, lodged⟩ := vigil
  cases held with
  | none =>
      obtain ⟨told, tells, before⟩ := sound.told
      refine ⟨⟨told, ?_, before⟩, nofun, sound.closing.same Iff.rfl rfl rfl rfl⟩
      simpa [take, Subscription.receive, Subscription.look, deliveryOf] using tells.ended
  | some handle =>
      obtain ⟨result, next, events, received, standing⟩ := (sound.standing handle rfl).receive room
      simp only [take, received]
      exact ⟨standing.tells, fun _ same => Option.some.inj same ▸ standing,
        sound.closing.same (by simp) rfl rfl rfl⟩

/-- The first time closing asks for the end, and then it does nothing. -/
theorem soundClose (sound : vigil.Sound limit) : (vigil.take .close).Sound limit := by
  obtain ⟨client, ⟨held⟩, pushed, report, closes, closings, lodged⟩ := vigil
  cases held with
  | none =>
      refine ⟨sound.told, by simp [take, Subscription.close], ?_⟩
      cases sound.closing with
      | unclosed there => exact absurd rfl there
      | accepted _ _ once asked =>
          exact .accepted rfl (Nat.succ_pos _) (by simpa [take, Subscription.close] using once)
            (by simpa [take, Subscription.close] using asked)
      | declined _ _ once idle =>
          exact .declined rfl (Nat.succ_pos _) (by simpa [take, Subscription.close] using once)
            (by simpa [take, Subscription.close] using idle)
  | some handle =>
      cases sound.closing with
      | accepted inert => contradiction
      | declined inert => contradiction
      | unclosed _ _ silent idle =>
          obtain rfl : closings = [] := silent
          obtain rfl : lodged = 0 := idle
          rcases closeEither handle client with ⟨_, declined⟩ | accepted
          · simp only [take, declined]
            exact ⟨sound.told, by simp, .declined rfl (Nat.succ_pos _) rfl (by simp)⟩
          · simp only [take, accepted]
            exact ⟨sound.told, by simp, .accepted rfl (Nat.succ_pos _) rfl (by simp)⟩

theorem soundTake (room : 0 < limit) (sound : vigil.Sound limit) {turn : Turn}
    (formed : turn.Formed) : (vigil.take turn).Sound limit := by
  cases turn with
  | others act => exact soundOthers sound formed
  | receive => exact soundReceive room sound
  | look => exact soundLook sound
  | close => exact soundClose sound

/-- Every header that was announced was returned, is counted in a warning or is still there. -/
def Balanced (vigil : Vigil) : Prop :=
  ∀ handle, vigil.subscription.handle = some handle →
    (returned vigil.report).length + skipped vigil.report +
      (handle.buffered vigil.client).length = vigil.pushed.length

/-- What every vigil has in common: the returned headers are in order, the account of what was
announced lacks only what the next call counts and is balanced behind every call, a call returns
what it should, and one end is asked for at most. -/
structure Faithful (limit : Nat) (vigil : Vigil) : Prop where
  inOrder : (returned vigil.report).Sublist vigil.pushed
  told : ∃ told, Tells vigil.report told ∧ told <+: vigil.pushed
  balanced : ∀ handle, vigil.subscription.handle = some handle →
    (returned vigil.report).length + skipped vigil.report + handle.overrun vigil.client +
      (handle.buffered vigil.client).length = vigil.pushed.length
  settled : (vigil.take .receive).Balanced
  newest : ∀ handle, vigil.subscription.handle = some handle →
    (handle.buffered vigil.client).length ≤ limit ∧
      (handle.overrun vigil.client ≠ 0 → (handle.buffered vigil.client).length = limit)
  receives : ∀ handle, vigil.subscription.handle = some handle →
    Receives vigil.client handle (vigil.subscription.receive vigil.client)
  inert : 0 < vigil.closes → ∀ client, vigil.subscription.receive client =
    (some (.error .closed), vigil.subscription, [])
  closing : vigil.Closing

theorem Closing.inert (closing : vigil.Closing) (closed : 0 < vigil.closes) :
    vigil.subscription = ⟨none⟩ := by
  cases closing with
  | unclosed _ never => omega
  | accepted inert | declined inert => exact congrArg Subscription.mk inert

theorem Sound.receives (sound : vigil.Sound limit) (room : 0 < limit) (handle : Handle)
    (held : vigil.subscription.handle = some handle) :
    Receives vigil.client handle (vigil.subscription.receive vigil.client) := by
  obtain ⟨_, pending, _, _, awaits⟩ := sound.standing handle held
  have same : vigil.subscription = ⟨some handle⟩ := congrArg Subscription.mk held
  exact same ▸ awaits.receives room

/-- A call leaves nothing behind that is missing unnoticed. -/
theorem Sound.settled (sound : vigil.Sound limit) (room : 0 < limit) :
    (vigil.take .receive).Balanced := by
  intro next after
  have standing := (soundReceive room sound).standing next after
  cases held : vigil.subscription.handle with
  | none =>
      have gone : vigil.subscription = ⟨none⟩ := congrArg Subscription.mk held
      simp [take, gone, Subscription.receive, Subscription.look] at after
  | some handle =>
      obtain ⟨reached, same, caughtUp⟩ := (sound.receives room handle held).caughtUp
      obtain rfl : next = reached :=
        Option.some.inj (after.symm.trans (congrArg Subscription.handle same))
      have balanced := standing.balanced
      rwa [show next.overrun (vigil.take .receive).client = 0 from caughtUp] at balanced

theorem Sound.faithful (sound : vigil.Sound limit) (room : 0 < limit) : vigil.Faithful limit where
  inOrder := by
    obtain ⟨told, tells, before⟩ := sound.told
    exact tells.inOrder.trans before.sublist
  told := sound.told
  balanced handle held := (sound.standing handle held).balanced
  settled := sound.settled room
  newest handle held := by
    obtain ⟨_, pending, _, _, awaits⟩ := sound.standing handle held
    rw [awaits.overrun, awaits.buffered, List.length_map, List.length_drop]
    omega
  receives := sound.receives room
  inert closed client := by
    rw [sound.closing.inert closed]
    rfl
  closing := sound.closing

/-- A subscription is new while nothing has been announced behind its place. -/
structure Opened (limit : Nat) (client : Client) (handle : Handle) : Prop where
  room : 0 < limit
  fresh : handle.Awaits limit [] client

/-- A vigil begins with a new subscription. -/
def begin (client : Client) (handle : Handle) : Vigil := { client, subscription := ⟨some handle⟩ }

variable {client : Client} {handle : Handle} {turns : List Turn}

theorem soundRun (opened : Opened limit client handle) (formed : ∀ turn ∈ turns, turn.Formed) :
    ((begin client handle).run turns).Sound limit := by
  induction turns using List.reverseRecOn with
  | nil =>
      exact ⟨⟨[], .nothing, List.nil_prefix⟩,
        fun _ same => Option.some.inj same ▸ ⟨[], [], .nothing, rfl, opened.fresh⟩,
        .unclosed (by simp [begin, run]) rfl rfl rfl⟩
  | append_singleton earlier turn inductionHypothesis =>
      rw [List.forall_mem_append, List.forall_mem_singleton] at formed
      rw [run, List.foldl_append]
      exact soundTake opened.room (inductionHypothesis formed.1) formed.2

/-- A turn in which the reader does not look by itself leaves every warning with its header. -/
theorem pairedTake (room : 0 < limit) (sound : vigil.Sound limit) {turn : Turn}
    (whole : turn ≠ .look) (paired : Paired vigil.report) : Paired (vigil.take turn).report := by
  cases turn with
  | look => contradiction
  | others | close => exact paired
  | receive =>
      simp only [take, List.append_assoc]
      refine paired.append ?_
      obtain ⟨client, ⟨held⟩, pushed, report, closes, closings, lodged⟩ := vigil
      cases held with
      | none => trivial
      | some handle => exact (sound.receives room handle rfl).paired

theorem pairedRun (opened : Opened limit client handle) (formed : ∀ turn ∈ turns, turn.Formed)
    (whole : ∀ turn ∈ turns, turn ≠ .look) : Paired ((begin client handle).run turns).report := by
  induction turns using List.reverseRecOn with
  | nil => trivial
  | append_singleton earlier turn inductionHypothesis =>
      rw [List.forall_mem_append, List.forall_mem_singleton] at formed whole
      rw [run, List.foldl_append]
      exact pairedTake opened.room (soundRun opened formed.1) whole.2
        (inductionHypothesis formed.1 whole.1)

end Vigil

end NodeBridge.Heads
