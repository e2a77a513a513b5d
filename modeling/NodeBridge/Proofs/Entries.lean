import Mathlib.Data.List.Nodup
import NodeBridge.Entries

/-
This file looks at the members of an object as a set.
If no name comes twice, neither their order nor members of other names play a part.
-/

namespace NodeBridge.Entries

variable {Value : Type} {members : List (String × Value)} {name : String} {entry : Option Value}

/-- An object has this entry under a name, or it has none. -/
def Holds (members : List (String × Value)) (name : String) : Option Value → Prop
  | none => ∀ value, (name, value) ∉ members
  | some value => (name, value) ∈ members

/-- What is found under a name is there. -/
theorem holdsNamed (members : List (String × Value)) (name : String) :
    Holds members name (named? name members) := by
  induction members with
  | nil => exact fun _ absent => absurd absent List.not_mem_nil
  | cons member rest inductionHypothesis =>
      obtain ⟨key, value⟩ := member
      by_cases same : key = name
      · rw [named?, if_pos same, same]
        exact List.mem_cons_self
      · rw [named?, if_neg same]
        cases found : named? name rest with
        | none =>
            rw [found] at inductionHypothesis
            intro other member
            rcases List.mem_cons.mp member with equal | later
            · exact same (Prod.mk.inj equal).1.symm
            · exact inductionHypothesis other later
        | some other =>
            rw [found] at inductionHypothesis
            exact List.mem_cons_of_mem _ inductionHypothesis

/-- Under distinct names there is only one entry. -/
theorem Holds.unique {other : Option Value} (distinct : (members.map Prod.fst).Nodup)
    (holds : Holds members name entry) (holdsToo : Holds members name other) : entry = other := by
  cases entry with
  | none =>
      cases other with
      | none => rfl
      | some value => exact absurd holdsToo (holds value)
  | some first =>
      cases other with
      | none => exact absurd holds (holdsToo first)
      | some second =>
          have same := List.inj_on_of_nodup_map distinct holds holdsToo rfl
          exact congrArg some (Prod.mk.inj same).2

theorem namedOfHolds (distinct : (members.map Prod.fst).Nodup)
    (holds : Holds members name entry) : named? name members = entry :=
  (holdsNamed members name).unique distinct holds

end NodeBridge.Entries
