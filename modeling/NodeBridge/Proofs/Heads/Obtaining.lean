import NodeBridge.Proofs.Heads.Vigil

/-
This file follows a client from its first connection on to the subscriptions that it grants.
Every subscription that is obtained was new at the moment of its grant, so what holds of every
vigil holds of it from that moment on.
-/

namespace NodeBridge.Heads

namespace Client

/-- A client begins with a connection to a node, and then everything may happen to it. -/
def live (node : Node) (acts : List Act) : Client := acts.foldl act { node }

/-- Every broadcast has the same limit, and the shared subscription has one of them. -/
structure Sound (client : Client) : Prop where
  carried : ∀ index, index < client.broadcasts.length → ∃ all, client.Carries index bufferLimit all
  named : ∀ shared, client.shared = some shared → shared.broadcast < client.broadcasts.length

variable {client later : Client}

namespace Sound

theorem same (sound : client.Sound) (broadcasts : later.broadcasts = client.broadcasts)
    (named : ∀ shared, later.shared = some shared →
      ∃ before, client.shared = some before ∧ shared.broadcast = before.broadcast) :
    later.Sound where
  carried index inside := by
    rw [broadcasts] at inside
    obtain ⟨all, carries⟩ := sound.carried index inside
    exact ⟨all, carries.same broadcasts⟩
  named shared found := by
    obtain ⟨before, there, index⟩ := named shared found
    rw [broadcasts, index]
    exact sound.named before there

theorem forget (sound : client.Sound) : client.forget.Sound where
  carried index inside := by
    obtain ⟨broadcasts, shape, length⟩ := client.forgetShape
    rw [shape] at inside
    obtain ⟨all, carries⟩ := sound.carried index (length ▸ inside)
    exact ⟨all, carries.forget⟩
  named shared found := by
    obtain ⟨broadcasts, shape, _⟩ := client.forgetShape
    rw [shape] at found
    contradiction

@[simp] theorem answersForget (client : Client) : client.forget.answers = client.answers := by
  obtain ⟨broadcasts, shape, _⟩ := client.forgetShape
  rw [shape]

/-- A subscription is granted on a broadcast from its end on, or it begins a broadcast. -/
theorem grant (sound : client.Sound) (request : Nat) (server : ServerId) :
    (client.grant request server).Sound ∧ ∃ handle,
      (client.grant request server).answers = client.answers ++ [(request, .ok handle)] ∧
      Vigil.Opened bufferLimit (client.grant request server) handle := by
  unfold Client.grant
  cases found : client.shared with
  | some shared =>
      have inside := sound.named shared found
      obtain ⟨all, broadcast, there, carries⟩ := sound.carried shared.broadcast inside
      refine ⟨sound.same rfl ?_, _, rfl, by decide, all, ?_, broadcast, there, ?_⟩
      · rintro _ ⟨⟩
        exact ⟨shared, found, rfl⟩
      · simp [broadcastOf, there, carries.counted]
      · simpa using carries
  | none =>
      have begun : ∀ index, index < client.broadcasts.length + 1 → ∃ all broadcast,
          (client.broadcasts ++ [{ limit := bufferLimit }])[index]? = some broadcast ∧
            broadcast.Carries bufferLimit all := by
        intro index inside
        rcases Nat.lt_succ_iff_lt_or_eq.mp inside with old | rfl
        · obtain ⟨all, broadcast, there, carries⟩ := sound.carried index old
          exact ⟨all, broadcast, (List.getElem?_append_left old).trans there, carries⟩
        · exact ⟨[], _, List.getElem?_concat_length, Broadcast.carriesNothing _⟩
      refine ⟨⟨?_, ?_⟩, _, rfl, by decide, [], rfl, _, List.getElem?_concat_length,
        Broadcast.carriesNothing _⟩
      · intro index inside
        exact begun index (by simpa [Client.answer] using inside)
      · rintro _ ⟨⟩
        simp [Client.answer]

/-- Only a grant answers a request with a handle, and then that is new. -/
theorem step {deed : Deed} (sound : client.Sound) (step : client.DeedStep deed later) :
    later.Sound ∧ ∀ request handle, (request, .ok handle) ∈ later.answers →
      (request, .ok handle) ∈ client.answers ∨ Vigil.Opened bufferLimit later handle := by
  cases step with
  | idle => exact ⟨sound, fun _ _ found => .inl found⟩
  | subscribe | lose | refuse | supply =>
      exact ⟨sound.same rfl fun shared found => ⟨shared, found, rfl⟩, fun _ _ found => .inl found⟩
  | @unsubscribe rest node =>
      have told : Sound { client with node, queue := rest } :=
        sound.same rfl fun shared found => ⟨shared, found, rfl⟩
      exact ⟨told.forget, fun _ _ found => .inl (by simpa using found)⟩
  | @grant request outcome server =>
      have landed : (client.land request).Sound :=
        sound.same rfl fun shared found => ⟨shared, found, rfl⟩
      obtain ⟨granted, handle, answers, opened⟩ := landed.grant request server
      refine ⟨granted, fun other handle found => ?_⟩
      rw [answers, List.mem_append, List.mem_singleton] at found
      rcases found with old | new
      · exact .inl old
      · cases new
        exact .inr opened
  | fail reason =>
      refine ⟨sound.same rfl fun shared found => ⟨shared, found, rfl⟩, fun other handle found => ?_⟩
      exact .inl (by simpa [Client.answer, land] using found)
  | @hear server notice index audience =>
      refine ⟨⟨fun other inside => ?_, fun shared found => ?_⟩, fun _ _ found => .inl found⟩
      · obtain ⟨all, carries⟩ := sound.carried other (by simpa [changeBroadcast] using inside)
        exact ⟨_, carries.hear audience notice⟩
      · simpa [changeBroadcast] using sound.named shared found
  | resume node =>
      refine ⟨sound.same rfl fun shared found => ?_, fun _ _ found => .inl found⟩
      obtain ⟨before, there, rfl⟩ := Option.map_eq_some_iff.mp found
      exact ⟨before, there, rfl⟩
  | giveUp node =>
      refine ⟨forget (sound.same rfl fun shared found => ⟨shared, found, rfl⟩), fun _ _ found => ?_⟩
      exact .inl (by simpa [Client.giveUp] using found)

theorem act (sound : client.Sound) (act : Act) :
    (client.act act).Sound ∧ ∀ request handle, (request, .ok handle) ∈ (client.act act).answers →
      (request, .ok handle) ∈ client.answers ∨
        Vigil.Opened bufferLimit (client.act act) handle := by
  cases act with
  | deed deed => exact sound.step (client.deedCases deed)
  | ask pubsub limit now name =>
      obtain ⟨queue, nextRequest, same⟩ := beginOpenShape pubsub limit now name client
      simp only [Client.act, same]
      exact ⟨sound.same rfl fun shared found => ⟨shared, found, rfl⟩, fun _ _ found => .inl found⟩
  | dismiss subscription =>
      obtain ⟨queue, same⟩ := closeShape subscription client
      simp only [Client.act, same]
      exact ⟨sound.same rfl fun shared found => ⟨shared, found, rfl⟩, fun _ _ found => .inl found⟩

end Sound

/-- Every handle in an answer was new at some moment of the life of its client. -/
theorem answersOpened (node : Node) (acts : List Act) :
    (live node acts).Sound ∧ ∀ request handle, (request, .ok handle) ∈ (live node acts).answers →
      ∃ before after, acts = before ++ after ∧
        Vigil.Opened bufferLimit (live node before) handle := by
  induction acts using List.reverseRecOn with
  | nil => exact ⟨⟨fun _ inside => absurd inside (Nat.not_lt_zero _), nofun⟩, nofun⟩
  | append_singleton acts act inductionHypothesis =>
      obtain ⟨sound, earlier⟩ := inductionHypothesis
      have whole : live node (acts ++ [act]) = (live node acts).act act := by
        rw [live, List.foldl_append]
        rfl
      obtain ⟨later, answered⟩ := sound.act act
      rw [whole]
      refine ⟨later, fun request handle found => ?_⟩
      rcases answered request handle found with old | new
      · obtain ⟨before, after, rfl, opened⟩ := earlier request handle old
        exact ⟨before, after ++ [act], (List.append_assoc _ _ _), opened⟩
      · exact ⟨acts ++ [act], [], (List.append_nil _).symm, whole ▸ new⟩

end Client

/-- What is obtained from an attempt to open was new at some moment before. -/
theorem obtainedNew {node : Node} {acts : List Act} {now : Nat} {attempt : Attempt}
    {handle : Handle}
    (obtained : completion? now (Client.live node acts) attempt = some (.ok handle)) :
    ∃ before after, acts = before ++ after ∧
      Vigil.Opened bufferLimit (Client.live node before) handle := by
  rcases completionCases obtained with ⟨_, _, failed⟩ |
      ⟨request, _, _, _, ⟨_, found, same⟩ | ⟨_, _, failed⟩ | failed⟩
  · cases failed
  · cases same
    obtain ⟨earlier, later, whole, _⟩ := List.lookup_eq_some_iff.mp found
    have answered : (request, .ok handle) ∈ (Client.live node acts).answers :=
      whole ▸ List.mem_append_right _ List.mem_cons_self
    exact (Client.answersOpened node acts).2 request handle answered
  · cases failed
  · cases failed

namespace Vigil

variable {limit : Nat}

/-- Each run of turns is faithful, and without looks between the calls a gap has one warning. -/
def Keeps (limit : Nat) (vigil : Vigil) (turns : List Turn) : Prop :=
  (vigil.run turns).Faithful limit ∧
    ((∀ turn ∈ turns, turn ≠ .look) → Paired (vigil.run turns).report)

theorem keepsRun {client : Client} {handle : Handle} {turns : List Turn}
    (opened : Opened limit client handle) (formed : ∀ turn ∈ turns, turn.Formed) :
    (begin client handle).Keeps limit turns :=
  ⟨(soundRun opened formed).faithful opened.room, pairedRun opened formed⟩

/-- While only others act the subscription is held and nothing is read. -/
theorem runOthers (acts : List Act) (vigil : Vigil) :
    ∃ pushed, vigil.run (acts.map .others) =
      { vigil with client := acts.foldl Client.act vigil.client, pushed } := by
  induction acts generalizing vigil with
  | nil => exact ⟨vigil.pushed, rfl⟩
  | cons act rest inductionHypothesis =>
      obtain ⟨pushed, same⟩ := inductionHypothesis (vigil.take (.others act))
      exact ⟨pushed, same⟩

end Vigil

/-- From its grant on a subscription that is obtained loses nothing silently, whatever happens in
between and afterwards. The same holds of every limit of the buffer. What is overwritten is counted
by the next call and not before. -/
theorem nothingIsLostSilently :
    (∀ (node : Node) (acts : List Act) (now : Nat) (attempt : Attempt) (handle : Handle),
      (∀ act ∈ acts, act.Formed) →
      completion? now (Client.live node acts) attempt = some (.ok handle) →
      ∃ before after, acts = before ++ after ∧
        let granted := Vigil.begin (Client.live node before) handle
        let obtained := granted.run (after.map .others)
        obtained.client = Client.live node acts ∧ obtained.subscription = ⟨some handle⟩ ∧
          obtained.report = [] ∧ obtained.closes = 0 ∧
          ∀ turns, (∀ turn ∈ turns, turn.Formed) →
            granted.Keeps bufferLimit (after.map .others ++ turns)) ∧
    ∀ (limit : Nat) (client : Client) (handle : Handle) (turns : List Turn),
      Vigil.Opened limit client handle → (∀ turn ∈ turns, turn.Formed) →
      (Vigil.begin client handle).Keeps limit turns := by
  constructor
  · intro node acts now attempt handle formed obtained
    obtain ⟨before, after, rfl, opened⟩ := obtainedNew obtained
    obtain ⟨pushed, same⟩ := Vigil.runOthers after (.begin (Client.live node before) handle)
    refine ⟨before, after, rfl, ?_⟩
    dsimp only
    rw [same]
    refine ⟨(List.foldl_append ..).symm, rfl, rfl, rfl, fun turns others => ?_⟩
    refine Vigil.keepsRun opened (List.forall_mem_append.mpr ⟨fun turn found => ?_, others⟩)
    obtain ⟨act, member, rfl⟩ := List.mem_map.mp found
    exact formed act (List.mem_append_right _ member)
  · intro limit client handle turns opened formed
    exact Vigil.keepsRun opened formed

/-- This is an announcement of the header of a number. -/
def announcement (number : Nat) : Turn :=
  .others (.deed (.announce (.number 1) (.header ⟨number, 0⟩)))

/-- A client whose buffer has room for two serves one subscription. -/
def roomForTwo : Client where
  shared := some ⟨0, some (.number 1), 0⟩
  broadcasts := [{ limit := 2 }]

/-- Three headers come before the first call and one more before the end. -/
def crowdedTurns : List Turn :=
  [announcement 1, announcement 2, announcement 3, .receive, .receive, announcement 4,
    .close, .receive, .close]

/-- A request to subscribe is sent and granted. -/
def openingActs : List Act :=
  [.ask true (.ofSeconds 1) 0 topic, .deed .send, .deed (.reply 0 (.result (.integer 1)))]

/-- The first of three headers is lost and counted, and closing twice asks once. -/
theorem nothingIsLostSilentlyCrowded :
    ((Vigil.begin roomForTwo ⟨0, 0⟩).run crowdedTurns).report =
        [.remark (Subscription.lagEvent 1), .item ⟨2, 0⟩, .item ⟨3, 0⟩, .failure .closed] ∧
      ((Vigil.begin roomForTwo ⟨0, 0⟩).run crowdedTurns).closings = [Subscription.closedEvent] ∧
      ((Vigil.begin roomForTwo ⟨0, 0⟩).run crowdedTurns).lodged = 1 ∧
      (Vigil.begin roomForTwo ⟨0, 0⟩).Keeps 2 crowdedTurns ∧
      ∃ before after, openingActs = before ++ after ∧
        (Vigil.begin (Client.live {} before) ⟨0, 0⟩).Keeps bufferLimit
          (after.map .others ++ crowdedTurns) := by
  have crowd : ∀ turn ∈ crowdedTurns, turn.Formed := by
    simp [crowdedTurns, announcement, Turn.Formed, Act.Formed]
  have opened : Vigil.Opened 2 roomForTwo ⟨0, 0⟩ :=
    ⟨by decide, [], rfl, _, rfl, Broadcast.carriesNothing 2⟩
  have asking : ∀ act ∈ openingActs, act.Formed := by simp [openingActs, Act.Formed]
  have obtained : completion? 5 (Client.live {} openingActs) (.asked 0 1000 (.ofSeconds 1)) =
      some (.ok ⟨0, 0⟩) := rfl
  obtain ⟨before, after, whole, _, _, _, _, kept⟩ :=
    nothingIsLostSilently.1 {} openingActs 5 _ ⟨0, 0⟩ asking obtained
  exact ⟨rfl, rfl, rfl, nothingIsLostSilently.2 2 roomForTwo ⟨0, 0⟩ crowdedTurns opened crowd,
    before, after, whole, kept crowdedTurns crowd⟩

/-- One more header comes than the buffer has room for, and nobody calls. -/
def burst : List Turn := (List.range (bufferLimit + 1)).map announcement

/-- The first header of a burst is gone before a call, and no warning counts it yet. -/
theorem overwrittenUncounted :
    completion? 5 (Client.live {} openingActs) (.asked 0 1000 (.ofSeconds 1)) =
        some (.ok ⟨0, 0⟩) ∧
      (∀ turn ∈ burst, turn.Formed) ∧
      ((Vigil.begin (Client.live {} openingActs) ⟨0, 0⟩).run burst).report = [] ∧
      ((Vigil.begin (Client.live {} openingActs) ⟨0, 0⟩).run burst).pushed.length = 17 ∧
      ¬ ((Vigil.begin (Client.live {} openingActs) ⟨0, 0⟩).run burst).Balanced := by
  refine ⟨rfl, ?_, rfl, rfl, fun balanced => ?_⟩
  · simp [burst, announcement, Turn.Formed, Act.Formed]
  · exact absurd (balanced ⟨0, 0⟩ rfl) (by decide)

end NodeBridge.Heads
