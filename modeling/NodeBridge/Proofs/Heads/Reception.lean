import NodeBridge.Heads.Subscription
import NodeBridge.Proofs.Heads.Traffic

/-
This file says what a reader of new headers finds, provided that everything announced is a header.
A gap is reported with its length and then the oldest header that is left follows, and the end
comes only after everything that was kept.
-/

namespace NodeBridge.Heads

open Observer

namespace Handle

/-- These announcements are there and were not read. -/
def buffered (client : Client) (handle : Handle) : List Notice :=
  let broadcast := client.broadcastOf handle.broadcast
  broadcast.kept.drop (handle.place - broadcast.oldest)

/-- This many announcements are gone, and the reader does not yet know. -/
def overrun (client : Client) (handle : Handle) : Nat :=
  (client.broadcastOf handle.broadcast).oldest - handle.place

/-- No announcement will come any more. -/
def ended (client : Client) (handle : Handle) : Bool :=
  !(client.broadcastOf handle.broadcast).isOpen

/-- These headers were announced behind the place of the reader, and the newest ones are there. -/
def Awaits (limit : Nat) (pending : List Header) (client : Client) (handle : Handle) : Prop :=
  ∃ earlier : List Notice, earlier.length = handle.place ∧
    client.Carries handle.broadcast limit (earlier ++ pending.map .header)

namespace Awaits

variable {client later : Client} {handle : Handle} {limit : Nat} {pending rest : List Header}
  {header : Header}

theorem overrun (awaits : handle.Awaits limit pending client) :
    handle.overrun client = pending.length - limit := by
  obtain ⟨earlier, place, broadcast, found, carries⟩ := awaits
  simp only [Handle.overrun, Client.broadcastOf, found, carries.oldest, List.length_append,
    List.length_map]
  omega

theorem buffered (awaits : handle.Awaits limit pending client) :
    handle.buffered client = (pending.drop (pending.length - limit)).map .header := by
  obtain ⟨earlier, place, broadcast, found, carries⟩ := awaits
  simp only [Handle.buffered, Client.broadcastOf, found]
  rcases Nat.le_total broadcast.oldest handle.place with reached | behind
  · rw [carries.keptFrom reached, ← place, List.drop_left]
    have inTime : pending.length - limit = 0 := by
      rw [carries.oldest, ← place, List.length_append, List.length_map] at reached
      omega
    rw [inTime, List.drop_zero]
  · rw [Nat.sub_eq_zero_of_le behind, List.drop_zero, carries.newest]
    rw [carries.oldest, ← place, List.length_append, List.length_map] at behind
    have gap : (earlier ++ pending.map Notice.header).length - limit =
        earlier.length + (pending.length - limit) := by
      rw [List.length_append, List.length_map]
      omega
    rw [gap, List.drop_append, List.drop_of_length_le (Nat.le_add_right _ _),
      Nat.add_sub_cancel_left, List.nil_append, List.map_drop]

/-- Announcements of headers are awaited after the others. -/
theorem undergo {deed : Deed} {headers : List Header} (awaits : handle.Awaits limit pending client)
    (heard : client.heard handle.broadcast deed = headers.map .header) :
    handle.Awaits limit (pending ++ headers) (client.undergo deed) := by
  obtain ⟨earlier, place, carries⟩ := awaits
  refine ⟨earlier, place, ?_⟩
  rw [List.map_append, ← List.append_assoc, ← heard]
  exact carries.undergo deed

theorem same (awaits : handle.Awaits limit pending client)
    (unchanged : later.broadcasts = client.broadcasts) : handle.Awaits limit pending later := by
  obtain ⟨earlier, place, carries⟩ := awaits
  exact ⟨earlier, place, carries.same unchanged⟩

/-- A reader that goes on has the first of the awaited headers behind it. -/
theorem goOn (awaits : handle.Awaits limit pending client) (count : Nat)
    (within : count ≤ pending.length) :
    Awaits limit (pending.drop count) client { handle with place := handle.place + count } := by
  obtain ⟨earlier, place, carries⟩ := awaits
  refine ⟨earlier ++ (pending.take count).map .header, by simp [place, within], ?_⟩
  rw [List.append_assoc, ← List.map_append, List.take_append_drop]
  exact carries

theorem behind (awaits : handle.Awaits limit pending client) (late : limit < pending.length) :
    (client.broadcastOf handle.broadcast).read handle.place =
      (.lagged (pending.length - limit), handle.place + (pending.length - limit)) := by
  obtain ⟨earlier, place, broadcast, found, carries⟩ := awaits
  have oldest : broadcast.oldest = handle.place + (pending.length - limit) := by
    rw [carries.oldest, List.length_append, List.length_map]
    omega
  have gone : handle.place < broadcast.oldest := by omega
  simp only [Client.broadcastOf, found]
  rw [Broadcast.readBehind gone, oldest, Nat.add_sub_cancel_left]

theorem ahead (awaits : handle.Awaits limit pending client) (inTime : pending.length ≤ limit) :
    (client.broadcastOf handle.broadcast).read handle.place =
      match pending.map Notice.header with
      | notice :: _ => (.value notice, handle.place + 1)
      | [] => (if handle.ended client then .closed else .pending, handle.place) := by
  obtain ⟨earlier, place, broadcast, found, carries⟩ := awaits
  have reached : broadcast.oldest ≤ handle.place := by
    rw [carries.oldest, List.length_append, List.length_map]
    omega
  simp only [Client.broadcastOf, found, Handle.ended]
  rw [carries.readAhead reached, ← place, List.drop_left]
  cases pending with
  | cons header rest => rfl
  | nil => cases broadcast.isOpen <;> rfl

end Awaits

end Handle

namespace Subscription

variable {client : Client} {handle : Handle} {limit : Nat} {pending rest : List Header}
  {header : Header}

/-- A reader that has fallen behind reports how many headers it has missed. -/
theorem lookBehind (awaits : handle.Awaits limit pending client) (late : limit < pending.length) :
    (Subscription.mk (some handle)).look client =
      (some (.remark (lagEvent (pending.length - limit))),
        ⟨some { handle with place := handle.place + (pending.length - limit) }⟩) := by
  simp only [look, readFrom, awaits.behind late]

/-- A reader that has missed nothing finds what was announced next. -/
theorem lookHeader (awaits : handle.Awaits limit (header :: rest) client)
    (inTime : rest.length < limit) :
    (Subscription.mk (some handle)).look client =
      (some (.item header), ⟨some { handle with place := handle.place + 1 }⟩) := by
  simp only [look, readFrom, awaits.ahead inTime, List.map_cons]

/-- A reader for whom nothing is left waits or is at the end. -/
theorem lookNothing (awaits : handle.Awaits limit [] client) :
    (Subscription.mk (some handle)).look client =
      (if handle.ended client then some (.failure .closed) else none, ⟨some handle⟩) := by
  simp only [look, readFrom, awaits.ahead (Nat.zero_le _), List.map_nil]
  cases handle.ended client <;> rfl

/-- The next header that is left is received, or else the reader waits or is at the end. -/
theorem receiveAwaited (awaits : handle.Awaits limit pending client) (room : 0 < limit) :
    (Subscription.mk (some handle)).receive client =
      match pending.drop (pending.length - limit) with
      | header :: _ =>
          (some (.ok header),
            ⟨some { handle with place := handle.place + (pending.length - limit) + 1 }⟩,
            if pending.length - limit = 0 then [] else [lagEvent (pending.length - limit)])
      | [] => (if handle.ended client then some (.error .closed) else none, ⟨some handle⟩, []) := by
  rcases Nat.lt_or_ge limit pending.length with behind | inTime
  · -- Behind a gap the broadcast is full, so the second look finds a header.
    have moved := awaits.goOn (pending.length - limit) (Nat.sub_le _ _)
    have full : (pending.drop (pending.length - limit)).length = limit := by
      rw [List.length_drop]
      omega
    have gap : pending.length - limit ≠ 0 := by omega
    cases left : pending.drop (pending.length - limit) with
    | nil =>
        rw [left, List.length_nil] at full
        omega
    | cons header rest =>
        rw [left] at moved full
        have second := lookHeader moved (by rw [← full]; exact Nat.lt_succ_self _)
        simp only [receive, lookBehind awaits behind, second, if_neg gap]
  · have none : pending.length - limit = 0 := by omega
    rw [none, List.drop_zero]
    cases pending with
    | cons header rest => simp only [receive, lookHeader awaits inTime, Nat.add_zero, if_true]
    | nil =>
        simp only [receive, lookNothing awaits]
        cases handle.ended client <;> rfl

end Subscription

/-- A call reports exactly what is missing and returns the oldest header that is left. A gap is no
failure, and the only failure is the end behind everything that was kept. -/
structure Receives (client : Client) (handle : Handle)
    (outcome : Option (Except StreamError Header) × Subscription × List Event) : Prop where
  warned : outcome.2.2 =
    if handle.overrun client = 0 then [] else [Subscription.lagEvent (handle.overrun client)]
  first : ∀ header rest, handle.buffered client = .header header :: rest →
    outcome.1 = some (.ok header)
  otherwise : handle.buffered client = [] →
    outcome.1 = if handle.ended client then some (.error .closed) else none
  unfailing : handle.overrun client ≠ 0 → ∃ header, outcome.1 = some (.ok header)
  last : ∀ error, outcome.1 = some (.error error) → error = .closed ∧
    handle.ended client = true ∧ handle.buffered client = [] ∧ handle.overrun client = 0
  caughtUp : ∃ next, outcome.2.1 = ⟨some next⟩ ∧ next.overrun client = 0

theorem Handle.Awaits.receives {client : Client} {handle : Handle} {limit : Nat}
    {pending : List Header} (awaits : handle.Awaits limit pending client) (room : 0 < limit) :
    Receives client handle ((Subscription.mk (some handle)).receive client) := by
  have received := Subscription.receiveAwaited awaits room
  have moved := awaits.goOn (pending.length - limit) (Nat.sub_le _ _)
  have missed := awaits.overrun
  have there := awaits.buffered
  have kept : (pending.drop (pending.length - limit)).length = min pending.length limit := by
    rw [List.length_drop]
    omega
  cases left : pending.drop (pending.length - limit) with
  | cons header rest =>
      rw [left] at received there moved kept
      have next := (moved.goOn 1 (Nat.succ_pos _)).overrun
      rw [received]
      constructor
      · rw [missed]
      · rintro other _ same
        rw [there] at same
        cases same
        rfl
      · intro empty
        rw [there] at empty
        cases empty
      · exact fun _ => ⟨header, rfl⟩
      · exact nofun
      · refine ⟨_, rfl, next.trans ?_⟩
        rw [List.drop_one, List.tail_cons]
        rw [List.length_cons] at kept
        omega
  | nil =>
      rw [left] at received there kept
      have none : pending.length - limit = 0 := by
        rw [List.length_nil] at kept
        omega
      rw [received]
      refine ⟨?_, ?_, fun _ => rfl, ?_, ?_, ⟨handle, rfl, missed.trans none⟩⟩
      · rw [missed, none]
        rfl
      · intro header rest same
        rw [there] at same
        cases same
      · exact fun some => absurd (missed.trans none) some
      · intro error failed
        cases finished : handle.ended client with
        | false => simp [finished] at failed
        | true =>
            simp only [finished, if_true, Option.some.injEq, Except.error.injEq] at failed
            exact ⟨failed.symm, rfl, there, missed.trans none⟩

end NodeBridge.Heads
