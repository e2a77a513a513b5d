import NodeBridge.Heads.Broadcast

/-
This file says what a broadcast keeps of all that was sent and what a reader finds in it.
A gap is as long as the part that a reader has missed, and behind it everything is still there.
-/

namespace NodeBridge.Heads.Broadcast

variable {A : Type}

/-- All these values were sent, and as many of the newest ones as the limit allows are there. -/
structure Carries (limit : Nat) (all : List A) (broadcast : Broadcast A) : Prop where
  limited : broadcast.limit = limit
  counted : broadcast.sent = all.length
  newest : broadcast.kept = all.drop (all.length - limit)

variable {broadcast : Broadcast A} {limit place : Nat} {all : List A}

theorem carriesNothing (limit : Nat) : Carries limit [] ({ limit } : Broadcast A) :=
  ⟨rfl, rfl, (List.drop_nil).symm⟩

/-- A reader that has fallen behind learns by how much and goes on at the oldest value. -/
theorem readBehind (behind : place < broadcast.oldest) :
    broadcast.read place = (.lagged (broadcast.oldest - place), broadcast.oldest) := by
  rw [read, if_pos behind]

namespace Carries

theorem send (carries : broadcast.Carries limit all) (value : A) :
    (broadcast.send value).Carries limit (all ++ [value]) where
  limited := carries.limited
  counted := by simp [Broadcast.send, carries.counted]
  newest := by
    simp only [Broadcast.send, carries.limited, carries.newest]
    -- A value that falls out of a full broadcast is the oldest one of those that were there.
    rcases Nat.lt_or_ge all.length limit with room | full
    · have whole : all.length - limit = 0 := by omega
      simp [whole]
    · have short : all.length - limit ≤ all.length := Nat.sub_le _ _
      rw [← List.drop_append_of_le_length short, List.drop_drop]
      congr 1
      simp
      omega

theorem close (carries : broadcast.Carries limit all) : broadcast.close.Carries limit all :=
  ⟨carries.limited, carries.counted, carries.newest⟩

theorem oldest (carries : broadcast.Carries limit all) :
    broadcast.oldest = all.length - limit := by
  simp only [Broadcast.oldest, carries.counted, carries.newest, List.length_drop]
  omega

/-- What is kept from a place on is what was sent from there on. -/
theorem keptFrom (carries : broadcast.Carries limit all) (reached : broadcast.oldest ≤ place) :
    broadcast.kept.drop (place - broadcast.oldest) = all.drop place := by
  rw [carries.oldest] at reached ⊢
  rw [carries.newest, List.drop_drop, Nat.add_sub_cancel' reached]

/-- A reader that has missed nothing gets what was sent next or comes to the end. -/
theorem readAhead (carries : broadcast.Carries limit all) (reached : broadcast.oldest ≤ place) :
    broadcast.read place =
      match all.drop place with
      | value :: _ => (.value value, place + 1)
      | [] => (if broadcast.isOpen then .pending else .closed, place) := by
  have next : broadcast.kept[place - broadcast.oldest]? = (all.drop place).head? := by
    rw [← carries.keptFrom reached, List.head?_drop]
  rw [read, if_neg (Nat.not_lt.mpr reached), next]
  cases all.drop place <;> rfl

end Carries

end NodeBridge.Heads.Broadcast
