import NodeBridge.Config.Loading

/-
This file says what the check of a configuration finds out.
The list of problems is read setting by setting, and the problems of addresses are among them in
the order of the contracts.
-/

namespace NodeBridge.Config

/-- Some problems concern the address of a contract. -/
def Problem.isInvalidAddress : Problem → Bool
  | .invalidAddress _ _ => true
  | _ => false

/-- This is what the check has to say about a contract. -/
def Contract.problem? (config : Config) (contract : Contract) : Option Problem :=
  Setting.address? contract (contract.value config)

theorem Contract.memAll (contract : Contract) : contract ∈ all := by
  cases contract <;> decide

namespace Setting

variable {config : Config}

theorem memAll (setting : Setting) : setting ∈ all := by
  cases setting with
  | contract which =>
      exact List.mem_append_left _ (List.mem_append_right _ (List.mem_map_of_mem which.memAll))
  | _ => decide

/-- Only settings of contracts have problems with addresses. -/
theorem addressProblem (config : Config) (setting : Setting) :
    (setting.problem? config).filter Problem.isInvalidAddress =
      match setting with
      | contract which => which.problem? config
      | _ => none := by
  cases setting with
  | contract which =>
      simp only [problem?, Contract.problem?, address?]
      split
      · rfl
      · split <;> rfl
  | _ =>
      simp only [problem?, zero?]
      split <;> rfl

theorem zeroFits {name : String} {value : UInt64} : zero? name value = none ↔ 0 < value.toNat := by
  have positive : 0 < value.toNat ↔ value ≠ 0 := by
    rw [Nat.pos_iff_ne_zero, ne_eq, ne_eq, ← UInt64.toNat_inj]
    rfl
  rw [zero?, positive]
  split <;> simp_all

end Setting

variable {config : Config}

/-- Among the problems those of addresses come contract by contract. -/
theorem addressProblems (config : Config) : config.problems.filter Problem.isInvalidAddress =
    Contract.all.filterMap (Contract.problem? config) := by
  rw [problems, List.filter_filterMap, funext (Setting.addressProblem config), Setting.all,
    List.filterMap_append, List.filterMap_append, List.filterMap_map]
  exact List.append_nil _

/-- A configuration without problems has no setting with one. -/
theorem fits (valid : config.problems = []) (setting : Setting) :
    setting.problem? config = none := by
  rw [problems, List.filterMap_eq_nil_iff] at valid
  exact valid setting setting.memAll

/-- Whatever is handed out was checked. -/
theorem parsed {source : String} (read : parse source = .ok config) : config.problems = [] := by
  rw [parse] at read
  split at read
  · contradiction
  · rw [checked] at read
    split at read
    case h_1 none =>
      obtain rfl := Except.ok.inj read
      exact none
    case h_2 => contradiction

end NodeBridge.Config
