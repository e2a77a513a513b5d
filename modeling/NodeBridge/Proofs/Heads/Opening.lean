import NodeBridge.Heads.Source
import NodeBridge.Proofs.Observer.Run

/-
This file bounds the attempts to subscribe to new headers.
Whatever the node does, an attempt under way ends at its deadline at the latest.
-/

namespace NodeBridge.Heads

open Observer

/-- This is the world of a worker that observes new headers. -/
abbrev Scene := World Holder Header

/-- The node and the connection do to the client whatever they want. -/
def Remote (before after : Holder) : Prop := ∃ client, after = { before with client }

theorem remoteRefl (holder : Holder) : Remote holder holder := ⟨holder.client, rfl⟩

/-- An attempt is under way, and its deadline does not come after this time. -/
def Asked (last : Nat) (holder : Holder) : Prop :=
  ∃ attempt, holder.attempt = some attempt ∧
    ∀ deadline, Holder.deadline? attempt = some deadline → deadline ≤ last

variable {holder after : Holder} {last now : Nat}

/-- An attempt fails at once or gets the whole limit. -/
theorem beginOpenCases (pubsub : Bool) (limit : Duration) (now : Nat) (name : String)
    (client : Client) :
    (∃ error, (beginOpen pubsub limit now name client).1 = .failed error) ∨
    ∃ request, (beginOpen pubsub limit now name client).1 =
      .asked request (now + limit.milliseconds) limit := by
  unfold beginOpen
  split
  · exact .inl ⟨_, rfl⟩
  · split
    · exact .inl ⟨_, rfl⟩
    · dsimp only
      split
      · exact .inl ⟨_, rfl⟩
      · exact .inr ⟨_, rfl⟩

theorem askedBeginOpen (pubsub : Bool) (limit : Duration) (now : Nat) (name : String)
    (holder : Holder) :
    Asked (now + limit.milliseconds) (holder.beginOpen pubsub limit now name) := by
  refine ⟨(beginOpen pubsub limit now name holder.client).1, rfl, ?_⟩
  intro deadline found
  rcases beginOpenCases pubsub limit now name holder.client with ⟨error, failed⟩ | ⟨request, asked⟩
  · rw [failed] at found
    contradiction
  · rw [asked] at found
    exact Nat.le_of_eq (Option.some.inj found).symm

/-- An answer that is missing is awaited until the deadline. -/
theorem awaitedBefore {client : Client} {request deadline : Nat} {limit : Duration}
    (incomplete : completion? now client (.asked request deadline limit) = none) :
    now < deadline := by
  simp only [completion?] at incomplete
  split at incomplete
  · contradiction
  · contradiction
  · split at incomplete
    · contradiction
    · omega

namespace Asked

theorem later {next : Nat} (asked : Asked last holder) (bound : last ≤ next) :
    Asked next holder := by
  obtain ⟨attempt, found, inTime⟩ := asked
  exact ⟨attempt, found, fun deadline same => Nat.le_trans (inTime deadline same) bound⟩

/-- The deadline is not in the hands of the node. -/
theorem remote (asked : Asked last holder) (may : Remote holder after) : Asked last after := by
  obtain ⟨client, rfl⟩ := may
  exact asked

/-- An attempt that is not yet complete has a deadline, and that is still to come. -/
theorem awaits (asked : Asked last holder) (waits : holder.completion? now = none) :
    ∃ deadline, holder.attempt.bind Holder.deadline? = some deadline ∧ now < deadline ∧
      deadline ≤ last := by
  obtain ⟨attempt, found, inTime⟩ := asked
  cases completed : Heads.completion? now holder.client attempt with
  | some result => cases result <;> simp [Holder.completion?, found, completed] at waits
  | none =>
      cases attempt with
      | failed error => contradiction
      | asked request deadline limit =>
          exact ⟨deadline, by simp [found, Holder.deadline?], awaitedBefore completed,
            inTime deadline rfl⟩

end Asked

end NodeBridge.Heads
