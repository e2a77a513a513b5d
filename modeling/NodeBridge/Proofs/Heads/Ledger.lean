import NodeBridge.Heads.Subscription
import NodeBridge.Proofs.Heads.Traffic
import Mathlib.Data.List.Nodup

/-
This file keeps account of the subscriptions that a node has confirmed.
A request is confirmed at most once on a connection, and no request that was refused comes back.
-/

namespace NodeBridge.Heads

/-- A confirmed subscription has the request that it answers and the name that the node gave it. -/
structure Confirmed where
  request : Nat
  server : ServerId

namespace Client

/-- The node is told to end this subscription if an instruction is sent now. -/
def ending? (client : Client) : Option ServerId :=
  match client.link, client.queue with
  | .connected, .unsubscribe :: _ => client.shared.bind Shared.server
  | _, _ => none

/-- The ledger has the confirmed subscriptions of this connection that the node was not told to
end. -/
def enter (client : Client) (ledger : List Confirmed) : Deed → List Confirmed
  | .reply request outcome =>
      match confirmed? outcome with
      | some server => if request ∈ client.inFlight then ledger ++ [⟨request, server⟩] else ledger
      | none => ledger
  | .send =>
      match client.ending? with
      | some server => ledger.filter (·.server ≠ server)
      | none => ledger
  | .lose _ => []
  | _ => ledger

/-- A request is open while it waits to be sent or to be answered. -/
def IsOpen (request : Nat) (client : Client) : Prop :=
  request ∈ client.inFlight ∨ .subscribe request ∈ client.queue

/-- The first answer to a request counts. -/
def Granted (request : Nat) (client : Client) : Prop :=
  ∃ handle, client.answers.lookup request = some (.ok handle)

def Refused (request : Nat) (client : Client) : Prop :=
  ∃ reason, client.answers.lookup request = some (.error reason)

/-- Requests in the ledger were granted and are settled, and a request that was refused stays so. -/
structure Books (ledger : List Confirmed) (client : Client) : Prop where
  linked : ledger ≠ [] → client.link = .connected
  numbered : ∀ request, client.IsOpen request → request < client.nextRequest
  answered : ∀ entry ∈ client.answers, entry.1 < client.nextRequest
  settled : ∀ entry ∈ ledger, ¬ client.IsOpen entry.request ∧ client.Granted entry.request
  distinct : (ledger.map Confirmed.request).Nodup
  shared : ∀ shared, client.shared = some shared → client.Granted shared.request
  final : client.link ≠ .gone → ∀ request, client.Refused request → ¬ client.IsOpen request

/-- A first answer stays the first one. -/
theorem lookupKept {request : Nat} {result : Except String Handle}
    {answers : List (Nat × Except String Handle)} (found : answers.lookup request = some result)
    (more : List (Nat × Except String Handle)) :
    (answers ++ more).lookup request = some result := by
  rw [List.lookup_append, found]
  rfl

/-- An answer that is new is the first one only if there was none. -/
theorem lookupAdded {request other : Nat} {result last : Except String Handle}
    {answers : List (Nat × Except String Handle)}
    (found : (answers ++ [(other, last)]).lookup request = some result) :
    answers.lookup request = some result ∨ request = other ∧ result = last := by
  rw [List.lookup_append, Option.or_eq_some_iff] at found
  rcases found with before | ⟨_, new⟩
  · exact .inl before
  · rw [List.lookup_cons] at new
    split at new
    case h_1 same => exact .inr ⟨beq_iff_eq.mp same, (Option.some.inj new).symm⟩
    case h_2 => contradiction

/-- A client that gives up answers what is open. -/
theorem giveUpShape (client : Client) :
    ∃ broadcasts failed, client.giveUp = { client with
        link := .gone, queue := [], inFlight := [], shared := none, broadcasts
        answers := client.answers ++ failed } ∧
      broadcasts.length = client.broadcasts.length ∧
      ∀ entry ∈ failed, client.IsOpen entry.1 ∧ ∃ reason, entry.2 = .error reason := by
  unfold giveUp
  dsimp only
  generalize queued : client.queue.filterMap _ = requests
  obtain ⟨broadcasts, same, length⟩ := forgetShape { client with
    link := .gone, queue := [], inFlight := []
    answers := client.answers ++
      (client.inFlight ++ requests).map fun request => (request, .error goneMessage) }
  refine ⟨broadcasts, _, same, length, fun entry member => ?_⟩
  obtain ⟨request, there, rfl⟩ := List.mem_map.mp member
  refine ⟨?_, goneMessage, rfl⟩
  rcases List.mem_append.mp there with flying | waiting
  · exact .inl flying
  · rw [← queued] at waiting
    obtain ⟨instruction, found, isRequest⟩ := List.mem_filterMap.mp waiting
    cases instruction with
    | subscribe other => exact .inr (Option.some.inj isRequest ▸ found)
    | unsubscribe => contradiction

section Keeping

variable {client later : Client} {request : Nat}

theorem Granted.keep {more : List (Nat × Except String Handle)} (granted : client.Granted request)
    (answers : later.answers = client.answers ++ more) : later.Granted request := by
  obtain ⟨handle, found⟩ := granted
  exact ⟨handle, answers ▸ lookupKept found more⟩

theorem Refused.keep {more : List (Nat × Except String Handle)} (refused : client.Refused request)
    (answers : later.answers = client.answers ++ more) : later.Refused request := by
  obtain ⟨reason, found⟩ := refused
  exact ⟨reason, answers ▸ lookupKept found more⟩

theorem Granted.unrefused (granted : client.Granted request) : ¬ client.Refused request := by
  rintro ⟨reason, refused⟩
  obtain ⟨handle, found⟩ := granted
  rw [found] at refused
  cases refused

end Keeping

section Entering

variable {client : Client} {ledger : List Confirmed} {deed : Deed}

/-- Without a reply nothing comes into the ledger. -/
theorem enterOwn (own : ∀ request outcome, deed ≠ .reply request outcome) :
    (client.enter ledger deed).Sublist ledger := by
  cases deed with
  | reply request outcome => exact absurd rfl (own request outcome)
  | lose => exact List.nil_sublist _
  | send =>
      simp only [enter]
      cases client.ending? with
      | some server => exact List.filter_sublist
      | none => exact .refl _
  | announce | reconnect | supply => exact .refl _

/-- A reply that changes nothing brings nothing into the ledger. -/
theorem enterIdle (unconfirmed : ∀ request outcome, deed = .reply request outcome →
      request ∈ client.inFlight → outcome = .silent) :
    (client.enter ledger deed).Sublist ledger := by
  cases deed with
  | reply request outcome =>
      by_cases awaited : request ∈ client.inFlight
      · cases unconfirmed request outcome rfl awaited
        exact .refl _
      · simp only [enter, awaited, if_false]
        cases confirmed? outcome <;> exact .refl _
  | send | announce | lose | reconnect | supply => exact enterOwn nofun

end Entering

namespace Books

variable {client later : Client} {ledger kept : List Confirmed} {request : Nat}

theorem answeredBefore (books : Books ledger client) {result : Except String Handle}
    (found : client.answers.lookup request = some result) : request < client.nextRequest := by
  obtain ⟨earlier, rest, same, _⟩ := List.lookup_eq_some_iff.mp found
  exact books.answered (request, result) (same ▸ List.mem_append_right _ List.mem_cons_self)

/-- The books stay right if no request is opened or answered. -/
theorem stay (books : Books ledger client) (sublist : kept.Sublist ledger)
    (link : kept ≠ [] → later.link = client.link) (going : later.link ≠ .gone → client.link ≠ .gone)
    (opened : ∀ request, later.IsOpen request → client.IsOpen request)
    (next : later.nextRequest = client.nextRequest) (answers : later.answers = client.answers)
    (shared : ∀ shared, later.shared = some shared → client.shared = some shared) :
    Books kept later where
  linked some := by
    have before : ledger ≠ [] := fun none => some (List.sublist_nil.mp (none ▸ sublist))
    exact (link some).trans (books.linked before)
  numbered request isOpen := next ▸ books.numbered request (opened request isOpen)
  answered entry member := next ▸ books.answered entry (answers ▸ member)
  settled entry member := by
    obtain ⟨closed, granted⟩ := books.settled entry (sublist.subset member)
    exact ⟨fun isOpen => closed (opened _ isOpen), by simpa [Granted, answers] using granted⟩
  distinct := (sublist.map _).nodup books.distinct
  shared current found := by
    simpa [Granted, answers] using books.shared current (shared current found)
  final still request refused isOpen :=
    books.final (going still) request (by simpa [Refused, answers] using refused)
      (opened request isOpen)

theorem booksAtStart (node : Node) : Books [] { node } where
  linked some := absurd rfl some
  numbered _ isOpen := by rcases isOpen with flying | waiting <;> contradiction
  answered _ member := by cases member
  settled _ member := by cases member
  distinct := List.nodup_nil
  shared _ found := by cases found
  final _ _ _ isOpen := by rcases isOpen with flying | waiting <;> contradiction

/-- A request that has come back and is not sent again is open no more. -/
theorem openLanded {other : Nat} (sent : .subscribe request ∉ client.queue)
    (isOpen : (client.land request).IsOpen other) : client.IsOpen other ∧ other ≠ request := by
  rcases isOpen with flying | waiting
  · simp only [land, List.mem_filter, decide_eq_true_eq] at flying
    exact ⟨.inl flying.1, flying.2⟩
  · exact ⟨.inr waiting, fun same => sent (same ▸ waiting)⟩

theorem answeredMore (books : Books ledger client) (awaited : request ∈ client.inFlight)
    (result : Except String Handle) :
    ∀ entry ∈ client.answers ++ [(request, result)], entry.1 < client.nextRequest := by
  intro entry member
  rw [List.mem_append, List.mem_singleton] at member
  rcases member with old | rfl
  · exact books.answered entry old
  · exact books.numbered request (.inl awaited)

/-- A grant settles its request, which is new to the ledger. -/
theorem grant (books : Books ledger client) (connected : client.link = .connected)
    (awaited : request ∈ client.inFlight) (sent : .subscribe request ∉ client.queue)
    (server : ServerId) :
    Books (ledger ++ [⟨request, server⟩]) ((client.land request).grant request server) := by
  obtain ⟨handle, current, broadcasts, shape, _, _, named⟩ :=
    grantShape request server (client.land request)
  rw [shape]
  generalize whole : Client.mk .. = later
  have answers : later.answers = client.answers ++ [(request, .ok handle)] := by rw [← whole]; rfl
  have opened : ∀ other, later.IsOpen other → client.IsOpen other ∧ other ≠ request := by
    rw [← whole]
    exact fun other isOpen => openLanded sent isOpen
  have going : client.link ≠ .gone := by simp [connected]
  have granted : later.Granted request := by
    cases found : client.answers.lookup request with
    | none => exact ⟨handle, by rw [answers, List.lookup_append, found]; simp⟩
    | some result =>
        cases result with
        | ok first => exact Granted.keep ⟨first, found⟩ answers
        | error reason => exact absurd (.inl awaited) (books.final going request ⟨reason, found⟩)
  constructor
  · intro _
    rw [← whole]
    exact connected
  · intro other isOpen
    rw [← whole]
    exact books.numbered other (opened other isOpen).1
  · rw [answers, ← whole]
    exact books.answeredMore awaited _
  · intro entry member
    rw [List.mem_append, List.mem_singleton] at member
    rcases member with old | rfl
    · obtain ⟨closed, before⟩ := books.settled entry old
      exact ⟨fun isOpen => closed (opened _ isOpen).1, before.keep answers⟩
    · exact ⟨fun isOpen => (opened _ isOpen).2 rfl, granted⟩
  · rw [List.map_append, List.nodup_append]
    refine ⟨books.distinct, List.nodup_singleton _, ?_⟩
    intro other member _ last same
    obtain ⟨entry, there, rfl⟩ := List.mem_map.mp member
    obtain rfl := List.mem_singleton.mp last
    exact (books.settled entry there).1 (same ▸ .inl awaited)
  · intro shared found
    have same : current = shared := by
      rw [← whole] at found
      exact Option.some.inj found
    rcases named with ⟨_, before, there, old, _⟩ | ⟨_, own, _⟩
    · rw [← same, old]
      exact (books.shared before there).keep answers
    · rw [← same, own]
      exact granted
  · rintro _ other ⟨reason, found⟩ isOpen
    rw [answers] at found
    rcases lookupAdded found with before | ⟨_, impossible⟩
    · exact books.final going other ⟨reason, before⟩ (opened other isOpen).1
    · cases impossible

theorem fail (books : Books ledger client) (awaited : request ∈ client.inFlight)
    (sent : .subscribe request ∉ client.queue) (reason : String) :
    Books ledger ((client.land request).answer request (.error reason)) := by
  have opened : ∀ other, ((client.land request).answer request (.error reason)).IsOpen other →
      client.IsOpen other ∧ other ≠ request := fun other isOpen => openLanded sent isOpen
  constructor
  · exact books.linked
  · exact fun other isOpen => books.numbered other (opened other isOpen).1
  · exact books.answeredMore awaited _
  · intro entry member
    obtain ⟨closed, before⟩ := books.settled entry member
    exact ⟨fun isOpen => closed (opened _ isOpen).1, before.keep rfl⟩
  · exact books.distinct
  · exact fun shared found => (books.shared shared found).keep rfl
  · rintro going other ⟨last, found⟩ isOpen
    rcases lookupAdded found with before | ⟨same, _⟩
    · exact books.final going other ⟨last, before⟩ (opened other isOpen).1
    · exact (opened other isOpen).2 same

/-- Without a connection nothing is in the ledger. -/
theorem apart (books : Books ledger client) (apart : client.link ≠ .connected) : ledger = [] := by
  cases ledger with
  | nil => rfl
  | cons entry rest => exact absurd (books.linked (List.cons_ne_nil _ _)) apart

/-- On a new connection the shared subscription is asked for again, and it was granted before. -/
theorem resume (books : Books ledger client) (apart : client.link ≠ .connected)
    (going : client.link ≠ .gone) : Books ledger client.resume := by
  obtain rfl := books.apart apart
  have opened : ∀ other, client.resume.IsOpen other →
      client.IsOpen other ∨ client.Granted other := by
    intro other isOpen
    rcases isOpen with flying | waiting
    · exact .inl (.inl flying)
    · simp only [Client.resume, List.mem_append, List.mem_map, Option.mem_toList] at waiting
      rcases waiting with (⟨_, flying, same⟩ | ⟨shared, found, same⟩) | old
      · cases same
        exact .inl (.inl flying)
      · cases same
        exact .inr (books.shared shared found)
      · exact .inl (.inr old)
  constructor
  · exact fun some => absurd rfl some
  · intro other isOpen
    rcases opened other isOpen with old | ⟨handle, found⟩
    · exact books.numbered other old
    · exact books.answeredBefore found
  · exact books.answered
  · exact nofun
  · exact List.nodup_nil
  · intro shared found
    obtain ⟨before, there, rfl⟩ := Option.map_eq_some_iff.mp found
    exact books.shared before there
  · intro _ other refused isOpen
    rcases opened other isOpen with old | granted
    · exact books.final going other refused old
    · exact granted.unrefused refused

theorem giveUp (books : Books ledger client) (apart : client.link ≠ .connected) :
    Books ledger client.giveUp := by
  obtain rfl := books.apart apart
  obtain ⟨broadcasts, failed, shape, _, wereOpen⟩ := client.giveUpShape
  rw [shape]
  constructor
  · exact fun some => absurd rfl some
  · rintro other (flying | waiting)
    · cases flying
    · cases waiting
  · intro entry member
    rcases List.mem_append.mp member with old | new
    · exact books.answered entry old
    · exact books.numbered entry.1 (wereOpen entry new).1
  · exact nofun
  · exact List.nodup_nil
  · exact nofun
  · exact fun going => absurd rfl going

/-- Whatever is done and allowed keeps the books right. -/
theorem step {deed : Deed} (books : Books ledger client) (allowed : client.Allows deed)
    (step : client.DeedStep deed later) : Books (client.enter ledger deed) later := by
  cases step with
  | idle _ unconfirmed =>
      exact books.stay (enterIdle unconfirmed) (fun _ => rfl) id (fun _ => id) rfl rfl fun _ => id
  | @subscribe request rest inFlight node connected first added =>
      refine books.stay (enterOwn nofun) (fun _ => rfl) id (fun other isOpen => ?_) rfl rfl
        fun _ => id
      rcases isOpen with flying | waiting
      · rcases (added other).mp flying with rfl | before
        · exact .inr (first ▸ List.mem_cons_self)
        · exact .inl before
      · exact .inr (first ▸ List.mem_cons_of_mem _ waiting)
  | @unsubscribe rest node connected first =>
      obtain ⟨broadcasts, shape, _⟩ := forgetShape { client with node, queue := rest }
      rw [shape]
      refine books.stay (enterOwn nofun) (fun _ => rfl) id (fun other isOpen => ?_) rfl rfl nofun
      rcases isOpen with flying | waiting
      · exact .inl flying
      · exact .inr (first ▸ List.mem_cons_of_mem _ waiting)
  | @grant request outcome server awaited confirmed =>
      have entered : client.enter ledger (.reply request outcome) =
          ledger ++ [⟨request, server⟩] := by
        simp only [enter, confirmed, awaited, if_true]
      rw [entered]
      exact books.grant allowed.1 awaited allowed.2 server
  | @fail request outcome reason awaited unconfirmed =>
      have entered : client.enter ledger (.reply request outcome) = ledger := by
        simp only [enter, unconfirmed]
      rw [entered]
      exact books.fail awaited allowed.2 reason
  | hear | supply =>
      exact books.stay (enterOwn nofun) (fun _ => rfl) id (fun _ => id) rfl rfl fun _ => id
  | lose connected =>
      exact books.stay (List.nil_sublist _) (fun some => absurd rfl some)
        (fun _ => by simp [connected]) (fun _ => id) rfl rfl fun _ => id
  | refuse node retrying going =>
      exact books.stay (enterOwn nofun) (fun some => absurd (books.apart retrying) some)
        (fun _ => going) (fun _ => id) rfl rfl fun _ => id
  | resume node retrying going =>
      have same : Books ledger { client with node } :=
        books.stay (.refl _) (fun _ => rfl) id (fun _ => id) rfl rfl fun _ => id
      exact same.resume retrying going
  | giveUp node retrying =>
      have same : Books ledger { client with node } :=
        books.stay (.refl _) (fun _ => rfl) id (fun _ => id) rfl rfl fun _ => id
      exact same.giveUp retrying

/-- A new request gets the next number. -/
theorem ask (books : Books ledger client) :
    Books ledger { client with
      queue := client.queue ++ [.subscribe client.nextRequest]
      nextRequest := client.nextRequest + 1 } := by
  generalize whole : Client.mk .. = later
  have opened : ∀ request, later.IsOpen request →
      client.IsOpen request ∨ request = client.nextRequest := by
    rw [← whole]
    rintro request (flying | waiting)
    · exact .inl (.inl flying)
    · rcases List.mem_append.mp waiting with old | new
      · exact .inl (.inr old)
      · cases List.mem_singleton.mp new
        exact .inr rfl
  have answers : later.answers = client.answers := by rw [← whole]
  have next : later.nextRequest = client.nextRequest + 1 := by rw [← whole]
  constructor
  · rw [← whole]
    exact books.linked
  · intro request isOpen
    rw [next]
    rcases opened request isOpen with old | rfl
    · exact Nat.lt_succ_of_lt (books.numbered request old)
    · exact Nat.lt_succ_self _
  · intro entry member
    rw [next]
    exact Nat.lt_succ_of_lt (books.answered entry (answers ▸ member))
  · intro entry member
    obtain ⟨closed, handle, found⟩ := books.settled entry member
    refine ⟨fun isOpen => ?_, handle, answers ▸ found⟩
    rcases opened _ isOpen with old | same
    · exact closed old
    · exact absurd (books.answeredBefore found) (by omega)
  · exact books.distinct
  · intro shared found
    rw [← whole] at found
    obtain ⟨handle, there⟩ := books.shared shared found
    exact ⟨handle, answers ▸ there⟩
  · intro going request refused isOpen
    obtain ⟨reason, found⟩ := refused
    rw [answers] at found
    rcases opened request isOpen with old | same
    · refine books.final ?_ request ⟨reason, found⟩ old
      rw [← whole] at going
      exact going
    · exact absurd (books.answeredBefore found) (by omega)

theorem dismiss (books : Books ledger client) :
    Books ledger { client with queue := client.queue ++ [.unsubscribe] } := by
  refine books.stay (.refl _) (fun _ => rfl) id (fun request isOpen => ?_) rfl rfl fun _ => id
  rcases isOpen with flying | waiting
  · exact .inl flying
  · exact .inr (by simpa using waiting)

end Books

/-- Nobody has closed anything, so only a client that gives up ends a subscription, and the last
one that was confirmed is known. -/
structure Calm (ledger : List Confirmed) (client : Client) : Prop where
  patient : .unsubscribe ∉ client.queue
  live : client.link ≠ .gone → ∀ (index : Nat) (broadcast : Broadcast Notice),
    client.broadcasts[index]? = some broadcast → broadcast.isOpen = true
  placed : ∀ request handle, (request, .ok handle) ∈ client.answers →
    handle.broadcast < client.broadcasts.length
  named : ∀ shared, client.shared = some shared → shared.broadcast < client.broadcasts.length
  known : ∀ last, ledger.getLast? = some last →
    ∃ shared, client.shared = some shared ∧ shared.server = some last.server

namespace Calm

variable {client later : Client} {ledger kept : List Confirmed} {request : Nat}

theorem calmAtStart (node : Node) : Calm [] { node } where
  patient := List.not_mem_nil
  live _ _ _ found := by simp at found
  placed _ _ member := by cases member
  named _ found := by cases found
  known _ found := by cases found

/-- Nothing is ended and nothing new is confirmed. -/
theorem stay (calm : Calm ledger client) (same : kept = ledger ∨ kept = [])
    (queue : .unsubscribe ∈ later.queue → .unsubscribe ∈ client.queue)
    (going : later.link ≠ .gone → client.link ≠ .gone) (shared : later.shared = client.shared)
    (broadcasts : later.broadcasts = client.broadcasts) (answers : later.answers = client.answers) :
    Calm kept later where
  patient waiting := calm.patient (queue waiting)
  live still := broadcasts ▸ calm.live (going still)
  placed := broadcasts ▸ answers ▸ calm.placed
  named := broadcasts ▸ shared ▸ calm.named
  known last found := by
    rcases same with rfl | rfl
    · exact shared ▸ calm.known last found
    · cases found

theorem endsNothing (calm : Calm ledger client) : client.ending? = none := by
  cases queue : client.queue with
  | nil => cases link : client.link <;> simp [ending?, queue, link]
  | cons instruction rest =>
      cases instruction with
      | subscribe request => cases link : client.link <;> simp [ending?, queue, link]
      | unsubscribe => exact absurd (queue ▸ List.mem_cons_self) calm.patient

/-- Without a confirmation the ledger stays or is lost with the connection. -/
theorem enterSame {deed : Deed} (calm : Calm ledger client)
    (unconfirmed : ∀ request outcome, deed = .reply request outcome →
      request ∈ client.inFlight → outcome = .silent) :
    client.enter ledger deed = ledger ∨ client.enter ledger deed = [] := by
  cases deed with
  | lose => exact .inr rfl
  | send => exact .inl (by simp only [enter, calm.endsNothing])
  | announce | reconnect | supply => exact .inl rfl
  | reply request outcome =>
      refine .inl ?_
      by_cases awaited : request ∈ client.inFlight
      · cases unconfirmed request outcome rfl awaited
        rfl
      · simp only [enter, awaited, if_false]
        cases confirmed? outcome <;> rfl

theorem grant (calm : Calm ledger client) (server : ServerId) :
    Calm (ledger ++ [⟨request, server⟩]) ((client.land request).grant request server) := by
  obtain ⟨handle, current, broadcasts, shape, known, own, grown⟩ :=
    grantShape request server (client.land request)
  have named := calm.named
  -- Either the broadcasts are the same or there is one more, and that is open.
  have inside : current.broadcast < broadcasts.length ∧
      client.broadcasts.length ≤ broadcasts.length ∧
      (client.link ≠ .gone → ∀ (index : Nat) (broadcast : Broadcast Notice),
        broadcasts[index]? = some broadcast → broadcast.isOpen = true) := by
    rcases grown with ⟨rfl, before, there, _, same⟩ | ⟨rfl, _, same⟩
    · exact ⟨same ▸ calm.named before there, Nat.le_refl _, calm.live⟩
    · refine ⟨by simp [same], by simp [land], fun going index broadcast found => ?_⟩
      rw [List.getElem?_append] at found
      split at found
      · exact calm.live going index broadcast found
      · rw [List.getElem?_singleton] at found
        split at found
        · exact Option.some.inj found ▸ rfl
        · contradiction
  rw [shape]
  constructor
  · exact calm.patient
  · exact inside.2.2
  · intro other granted member
    rcases List.mem_append.mp member with old | new
    · exact Nat.lt_of_lt_of_le (calm.placed other granted old) inside.2.1
    · cases List.mem_singleton.mp new
      exact own ▸ inside.1
  · rintro shared ⟨⟩
    exact inside.1
  · intro last found
    rw [List.getLast?_concat] at found
    exact ⟨current, rfl, Option.some.inj found ▸ known⟩

theorem step {deed : Deed} (calm : Calm ledger client) (books : Books ledger client)
    (step : client.DeedStep deed later) : Calm (client.enter ledger deed) later := by
  cases step with
  | idle _ unconfirmed => exact calm.stay (calm.enterSame unconfirmed) id id rfl rfl rfl
  | @subscribe request rest inFlight node connected first added =>
      refine calm.stay (calm.enterSame (by simp)) (fun waiting => ?_) id rfl rfl rfl
      exact first ▸ List.mem_cons_of_mem _ waiting
  | unsubscribe node connected first => exact absurd (first ▸ List.mem_cons_self) calm.patient
  | @grant request outcome server awaited confirmed =>
      have entered : client.enter ledger (.reply request outcome) =
          ledger ++ [⟨request, server⟩] := by
        simp only [enter, confirmed, awaited, if_true]
      rw [entered]
      exact calm.grant server
  | @fail request outcome reason awaited unconfirmed =>
      have entered : client.enter ledger (.reply request outcome) = ledger := by
        simp only [enter, unconfirmed]
      rw [entered]
      refine ⟨calm.patient, calm.live, fun other handle member => ?_, calm.named, calm.known⟩
      rcases List.mem_append.mp member with old | new
      · exact calm.placed other handle old
      · cases List.mem_singleton.mp new
  | @hear server notice index audience =>
      refine ⟨calm.patient, fun going other broadcast found => ?_, ?_, ?_, calm.known⟩
      · simp only [changeBroadcast, List.getElem?_modify] at found
        obtain ⟨before, there, same⟩ := Option.map_eq_some_iff.mp found
        have live := calm.live going other before there
        rw [← same]
        split
        · exact live
        · exact live
      · simpa [changeBroadcast] using calm.placed
      · simpa [changeBroadcast] using calm.named
  | lose connected =>
      exact calm.stay (calm.enterSame (by simp)) id (fun _ => by simp [connected]) rfl rfl rfl
  | refuse node retrying going =>
      exact calm.stay (calm.enterSame (by simp)) id (fun _ => going) rfl rfl rfl
  | supply node => exact calm.stay (calm.enterSame (by simp)) id id rfl rfl rfl
  | resume node retrying going =>
      obtain rfl := books.apart retrying
      refine ⟨fun waiting => ?_, fun _ => calm.live going, calm.placed, fun shared found => ?_,
        fun _ found => by cases found⟩
      · simp only [Client.resume, List.mem_append, List.mem_map] at waiting
        rcases waiting with (⟨_, _, same⟩ | ⟨_, _, same⟩) | old
        · cases same
        · cases same
        · exact calm.patient old
      · obtain ⟨before, there, rfl⟩ := Option.map_eq_some_iff.mp found
        exact calm.named before there
  | giveUp node retrying =>
      obtain rfl := books.apart retrying
      obtain ⟨broadcasts, failed, shape, length, wereOpen⟩ := giveUpShape { client with node }
      rw [shape]
      refine ⟨List.not_mem_nil, fun going => absurd rfl going, fun other handle member => ?_,
        by simp, fun _ found => by cases found⟩
      rcases List.mem_append.mp member with old | new
      · exact length ▸ calm.placed other handle old
      · obtain ⟨_, reason, impossible⟩ := wereOpen _ new
        cases impossible

/-- An instruction to subscribe leaves everything as it is. -/
theorem ask (calm : Calm ledger client) (next : Nat) :
    Calm ledger { client with
      queue := client.queue ++ [.subscribe request], nextRequest := next } :=
  calm.stay (.inl rfl) (fun waiting => by simpa using waiting) id rfl rfl rfl

end Calm

/-- A deed takes no number, takes back no answer and takes away no broadcast, and a client that has
given up stays so. -/
theorem DeedStep.grows {client later : Client} {deed : Deed} (step : client.DeedStep deed later) :
    later.nextRequest = client.nextRequest ∧
      (∃ more, later.answers = client.answers ++ more) ∧
      client.broadcasts.length ≤ later.broadcasts.length ∧
      (client.link = .gone → later.link = .gone) := by
  cases step with
  | idle | subscribe | supply => exact ⟨rfl, ⟨[], (List.append_nil _).symm⟩, Nat.le_refl _, id⟩
  | @unsubscribe rest node =>
      obtain ⟨broadcasts, shape, length⟩ := forgetShape { client with node, queue := rest }
      rw [shape]
      exact ⟨rfl, ⟨[], (List.append_nil _).symm⟩, Nat.le_of_eq length.symm, id⟩
  | @grant request _ server =>
      obtain ⟨handle, current, broadcasts, shape, _, _, grown⟩ :=
        grantShape request server (client.land request)
      rw [shape]
      refine ⟨rfl, ⟨_, rfl⟩, ?_, id⟩
      rcases grown with ⟨rfl, _⟩ | ⟨rfl, _⟩
      · exact Nat.le_refl _
      · simp [land]
  | fail reason => exact ⟨rfl, ⟨_, rfl⟩, Nat.le_refl _, id⟩
  | hear audience =>
      exact ⟨rfl, ⟨[], (List.append_nil _).symm⟩, by simp [changeBroadcast], id⟩
  | lose connected =>
      exact ⟨rfl, ⟨[], (List.append_nil _).symm⟩, Nat.le_refl _, by simp [connected]⟩
  | resume node retrying going | refuse node retrying going =>
      exact ⟨rfl, ⟨[], (List.append_nil _).symm⟩, Nat.le_refl _, fun gone => absurd gone going⟩
  | giveUp node =>
      obtain ⟨broadcasts, failed, shape, length, _⟩ := giveUpShape { client with node }
      rw [shape]
      exact ⟨rfl, ⟨_, rfl⟩, Nat.le_of_eq length.symm, fun _ => rfl⟩

end Client

end NodeBridge.Heads
