import NodeBridge.Daemon.Run
import NodeBridge.Proofs.Config.Independence

/-
This file follows the configuration from the arguments of the program to its log and its bridge.
A file is checked when it is read, but the level of the command line is put in after that.
-/

namespace NodeBridge

open Config (Setting)
open CommandLine (Options)

/-- Only a configuration without problems is handed out by a file. -/
theorem Config.problemsOfFound {found : Except FileTree.ReadError FileTree} {config : Config}
    (read : ofFound found = .ok config) : config.problems = [] := by
  unfold ofFound at read
  split at read
  · contradiction
  · exact parsed read

namespace Daemon

variable {surroundings : Surroundings} {options : Options} {config : Config}

/-- This is wrong with a level of the command line. -/
def levelProblem? (level : String) : Option Config.Problem :=
  if Setting.isLogLevel level then none else some (.unknownLogLevel level)

/-- The level of the command line has no influence on what is said about the other settings. -/
theorem problemOverride (options : Options) (config : Config) (setting : Setting)
    (other : setting ≠ .logLevel) :
    setting.problem? (override options config) = setting.problem? config := by
  unfold override
  split
  · rfl
  · cases setting with
    | logLevel => exact absurd rfl other
    | contract which => cases which <;> rfl
    | _ => rfl

/-- A level that is put in is the only thing that can be wrong with a checked configuration. -/
theorem problemsOverride (options : Options) (valid : config.problems = []) :
    (override options config).problems = (options.logLevel.bind levelProblem?).toList := by
  have others : ∀ setting : Setting, setting ≠ .logLevel →
      setting.problem? (override options config) = none :=
    fun setting other => (problemOverride options config setting other).trans
      (Config.fits valid setting)
  have last : Setting.problem? (override options config) .logLevel =
      options.logLevel.bind levelProblem? := by
    have fits := Config.fits valid .logLevel
    unfold override
    cases options.logLevel with
    | none => exact fits
    | some level => rfl
  rw [Config.problems, Setting.all, List.filterMap_append, List.filterMap_eq_nil_iff.mpr]
  · cases level : options.logLevel.bind levelProblem? <;> simp [last, level]
  · intro setting member
    refine others setting ?_
    rintro rfl
    simp at member

/-- A configuration comes from the defaults or from a file, and then a level may be put in. -/
structure Origin (surroundings : Surroundings) (options : Options) (base config : Config) :
    Prop where
  standard : options.config = none → base = {}
  file : ∀ path, options.config = some path →
    Config.ofFound (surroundings.find path) = .ok base
  checked : base.problems = []
  overridden : config = override options base

theorem originOfConfiguration (found : configuration surroundings options = .ok config) :
    ∃ base, Origin surroundings options base config := by
  cases chosen : options.config with
  | none =>
      simp only [configuration, chosen] at found
      have file (path : String) (same : options.config = some path) :
          Config.ofFound (surroundings.find path) = .ok {} := by
        rw [chosen] at same
        contradiction
      exact ⟨{}, fun _ => rfl, file, by decide +kernel, (Except.ok.inj found).symm⟩
  | some path =>
      simp only [configuration, chosen] at found
      cases read : Config.ofFound (surroundings.find path) with
      | error cause =>
          rw [read] at found
          contradiction
      | ok base =>
          rw [read] at found
          refine ⟨base, fun absent => ?_, fun other same => ?_, Config.problemsOfFound read,
            (Except.ok.inj found).symm⟩
          · rw [chosen] at absent
            contradiction
          · exact Option.some.inj (chosen.symm.trans same) ▸ read

/-- A level of the command line is fit if it is one of the five in any case of letters. -/
theorem validOverride (found : config.problems = (options.logLevel.bind levelProblem?).toList) :
    config.problems = [] ↔ ∀ level, options.logLevel = some level →
      level.toLower ∈ ["trace", "debug", "info", "warn", "error"] := by
  rw [found]
  cases options.logLevel with
  | none => simp
  | some level =>
      have fits := Setting.levelFits level
      cases known : Setting.isLogLevel level <;> simp_all [levelProblem?]

/-- This is what the log and the bridge get from the arguments and the files. -/
structure Launch (surroundings : Surroundings) (arguments : List String) (options : Options)
    (config : Config) : Prop where
  /-- The log and the bridge are made from this configuration. -/
  served : ∀ visit, run surroundings visit arguments = runWith surroundings visit config
  origin : ∃ base, Origin surroundings options base config
  /-- Nothing but a level of the command line can be wrong. -/
  problems : config.problems = (options.logLevel.bind levelProblem?).toList
  valid : config.problems = [] ↔ ∀ level, options.logLevel = some level →
    level.toLower ∈ ["trace", "debug", "info", "warn", "error"]

/-- The program starts with a configuration, or it ends before anything is logged. -/
structure Startup (surroundings : Surroundings) (arguments : List String) : Prop where
  launched : ∀ options config, CommandLine.parse arguments = .run options →
    configuration surroundings options = .ok config →
    Launch surroundings arguments options config
  /-- No node is asked if there is no configuration. -/
  ended : (∀ options config, CommandLine.parse arguments = .run options →
    configuration surroundings options ≠ .ok config) →
    ∃ report : Report, report.events = [] ∧ ∀ visit, run surroundings visit arguments = report

/-- Every configuration with which the program starts was checked, but for the level that the
command line puts in afterwards. -/
theorem startsWithChecked (surroundings : Surroundings) (arguments : List String) :
    Startup surroundings arguments where
  launched options config parsed found := by
    obtain ⟨base, origin⟩ := originOfConfiguration found
    have problems : config.problems = (options.logLevel.bind levelProblem?).toList :=
      origin.overridden ▸ problemsOverride options origin.checked
    refine ⟨fun visit => ?_, ⟨base, origin⟩, problems, validOverride problems⟩
    rw [run, parsed]
    simp only [found]
  ended none := by
    unfold run
    cases parsed : CommandLine.parse arguments with
    | help => exact ⟨_, rfl, fun _ => rfl⟩
    | refused error => exact ⟨_, rfl, fun _ => rfl⟩
    | run options =>
        cases found : configuration surroundings options with
        | error cause => exact ⟨{ exit := 1, remarks := (Failure.configuration cause).message }, rfl,
            fun _ => by simp only [found]⟩
        | ok config => exact absurd found (none options config parsed)

/-- The file is fit, and it names a socket that is not there. -/
def lonely : Surroundings where
  find _ := .ok (.file "[rpc]\nurl='/nonexistent/foo.ipc'".toUTF8.toList)

/-- A level that is no level is not refused. -/
theorem levelGoesUnchecked : ¬ ∀ (surroundings : Surroundings) (arguments : List String)
    (options : Options) (config : Config), CommandLine.parse arguments = .run options →
      configuration surroundings options = .ok config → config.problems = [] := by
  intro everythingIsChecked
  have parsed : CommandLine.parse ["-l", "loud", "-c", "bridge.toml"] =
      .run ⟨some "bridge.toml", some "loud"⟩ := by
    simp only [CommandLine.parse, CommandLine.readFrom]
    rfl
  have wrong : ((configuration lonely ⟨some "bridge.toml", some "loud"⟩).toOption.map
      Config.problems) = some [.unknownLogLevel "loud"] := by decide +kernel
  cases found : configuration lonely ⟨some "bridge.toml", some "loud"⟩ with
  | error cause =>
      rw [found] at wrong
      contradiction
  | ok config =>
      rw [found] at wrong
      have unfit : config.problems = [.unknownLogLevel "loud"] := Option.some.inj wrong
      rw [everythingIsChecked lonely _ _ config parsed found] at unfit
      contradiction

end Daemon

end NodeBridge
