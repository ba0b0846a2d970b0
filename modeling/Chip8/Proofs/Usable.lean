import Chip8.CommandLine.Program
import Chip8.Proofs.ConfigReport
import Chip8.Proofs.Rounding
import Chip8.Proofs.Timers

/-!
# What an accepted configuration is good for

A configuration is accepted when its settings pass their checks (`Accepted`), and used later on, step by step:
its level by the logger, its seed by the generator, its colour scheme by the window and its rates by the
controller. The level and the scheme are checked for just what is asked of them there. Of the seed nothing is
checked, and of the rates only that they are positive, while the generator takes 64 signed bits and the
controller what a float can hold. So an accepted configuration is usable exactly if its seed and its rates
fit (`usable_iff_fits`), and one that does not fit ends the program with an error that is not handled
(`ending_of_accepted`).
-/

namespace Chip8

namespace Config

open Pacing (Controller BadRate Reading)

/-! ### Acceptance -/

/-- What is known of a configuration that is accepted. -/
structure Accepted (c : Config) : Prop where
  /-- Instructions are performed. -/
  instructionsPerSecond : 0 < c.instructionsPerSecond
  /-- The timers count. -/
  timerFrequency : 0 < c.timerFrequency
  /-- A cell has pixels. -/
  scale : 0 < c.scale
  /-- There is such a level. -/
  logLevel : ∃ level, LogLevel.ofText? c.logLevel = some level
  /-- There is such a colour scheme. -/
  colorScheme : c.colorScheme ∈ Rendering.schemeNames

/-- A result that is computed from another one has that one before it. -/
theorem bind_eq_ok {α β : Type} {x : Except Error α} {f : α → Except Error β} {b : β}
    (h : (x >>= f) = .ok b) : ∃ a, x = .ok a ∧ f a = .ok b := by
  cases x with
  | error e => cases h
  | ok a => exact ⟨a, rfl, h⟩

/-- What comes after a check comes only if that is passed. -/
theorem check_eq_ok {β : Type} {p : Prop} [Decidable p] {e : Error} {next : PUnit → Except Error β} {b : β}
    (h : (if p then Except.error e >>= next else next ⟨⟩) = .ok b) : ¬ p ∧ next ⟨⟩ = .ok b := by
  split at h
  case isTrue => cases h
  case isFalse hp => exact ⟨hp, h⟩

theorem pos_of_positive {f : Field} {z : Int} {u : Unit} (h : Draft.positive f z = .ok u) : 0 < z := by
  unfold Draft.positive at h
  split at h
  case isTrue => cases h
  case isFalse hpos => exact Int.not_le.mp hpos

/-- A draft becomes a configuration only if that is accepted. -/
theorem accepted_finish {d : Draft} {environment : String → Option String} {c : Config}
    (h : d.finish environment = .ok c) : c.Accepted := by
  unfold Draft.finish at h
  obtain ⟨ips, -, h⟩ := bind_eq_ok h
  obtain ⟨_, hips, h⟩ := bind_eq_ok h
  obtain ⟨hertz, -, h⟩ := bind_eq_ok h
  obtain ⟨_, hhertz, h⟩ := bind_eq_ok h
  obtain ⟨scale, -, h⟩ := bind_eq_ok h
  obtain ⟨_, hscale, h⟩ := bind_eq_ok h
  obtain ⟨level, -, h⟩ := bind_eq_ok h
  obtain ⟨hlevel, h⟩ := check_eq_ok h
  obtain ⟨scheme, -, h⟩ := bind_eq_ok h
  obtain ⟨hscheme, h⟩ := check_eq_ok h
  obtain ⟨seed, -, h⟩ := bind_eq_ok h
  obtain ⟨trace, -, h⟩ := bind_eq_ok h
  cases h
  refine ⟨pos_of_positive hips, pos_of_positive hhertz, pos_of_positive hscale, ?_, ?_⟩
  · exact Option.ne_none_iff_exists'.mp (by simpa using hlevel)
  · simpa using hscheme

/-- **What is loaded is accepted**, whatever documents and overrides it comes from. -/
theorem accepted_load {environment : String → Option String} {document : Option String}
    {overrides : List String} {c : Config} (h : load environment document overrides = .ok c) :
    c.Accepted := by
  -- Wherever the entries come from, in the end a draft becomes the configuration.
  have hmerged (es : List (Value × Value)) (h : (do
      let draft ← Draft.initial.mergeAll es
      let fromOverrides ← Override.gather environment overrides
      (← draft.mergeAll fromOverrides).finish environment) = Except.ok c) : c.Accepted := by
    obtain ⟨draft, -, h⟩ := bind_eq_ok h
    obtain ⟨fromOverrides, -, h⟩ := bind_eq_ok h
    obtain ⟨merged, -, h⟩ := bind_eq_ok h
    exact accepted_finish h
  unfold load at h
  cases document with
  | none => exact hmerged [] h
  | some text =>
    obtain ⟨es, -, h⟩ := bind_eq_ok h
    exact hmerged es h

theorem accepted_default : default.Accepted where
  instructionsPerSecond := by decide
  timerFrequency := by decide
  scale := by decide
  logLevel := ⟨.info, by decide⟩
  colorScheme := by decide

/-! ### Use -/

/-- The generator takes the seed. -/
def SeedFits (c : Config) : Prop := -0x8000000000000000 ≤ c.seed ∧ c.seed < 0x8000000000000000

/-- The controller takes the rates. -/
def RatesFit (c : Config) : Prop :=
  c.instructionsPerSecond < Binary64.limit ∧ c.timerFrequency < Binary64.limit

instance (c : Config) : Decidable c.SeedFits := inferInstanceAs (Decidable (_ ∧ _))

instance (c : Config) : Decidable c.RatesFit := inferInstanceAs (Decidable (_ ∧ _))

/-- A configuration and a program are of use to all that is done with them before a cycle is run. -/
structure Usable (c : Config) (rom : List UInt8) : Prop where
  /-- A logger takes its level. -/
  level : ∀ l : Logger, ∃ l', l.setLevel c.logLevel = .ok l'
  /-- The generator takes its seed. -/
  seed : ∃ key, Random.ofSeed c.seed = .ok key
  /-- A machine takes the program. -/
  program : ∀ key, ∃ m, (Machine.start key).loadRom rom = .ok m
  /-- The window has its colour scheme. -/
  scheme : ∃ s, Rendering.scheme c.colorScheme = .ok s
  /-- A controller takes its rates. -/
  rates : ∀ m, ∃ k : Controller Float,
    Controller.create m c.instructionsPerSecond c.timerFrequency c.trace = .ok k

theorem setLevel_of_accepted {c : Config} (hc : c.Accepted) (l : Logger) :
    ∃ l', l.setLevel c.logLevel = .ok l' := by
  obtain ⟨level, hlevel⟩ := hc.logLevel
  unfold Logger.setLevel
  rw [hlevel]
  exact ⟨_, rfl⟩

theorem scheme_of_accepted {c : Config} (hc : c.Accepted) : ∃ s, Rendering.scheme c.colorScheme = .ok s := by
  obtain ⟨entry, hmem, hname⟩ := List.mem_map.mp hc.colorScheme
  unfold Rendering.scheme
  split
  case h_1 s _ => exact ⟨s, rfl⟩
  case h_2 hnone =>
    have hother := List.lookup_eq_none_iff.mp hnone entry hmem
    rw [hname, bne_self_eq_false] at hother
    cases hother

/-- A machine takes a program of up to 3584 bytes. -/
theorem loadRom_of_le {rom : List UInt8} (h : rom.length ≤ 3584) (key : Random.Block) :
    ∃ m, (Machine.start key).loadRom rom = .ok m :=
  ⟨_, if_neg (by unfold Machine.programStart Machine.memorySize; omega)⟩

theorem ofSeed_of_fits {c : Config} (h : c.SeedFits) : ∃ key, Random.ofSeed c.seed = .ok key :=
  ⟨_, if_pos h⟩

theorem ofSeed_of_not_fits {c : Config} (h : ¬ c.SeedFits) : Random.ofSeed c.seed = .error ⟨c.seed⟩ :=
  if_neg h

/-- A positive rate has a period if a float holds it. -/
theorem period_of_lt {z : Int} (h : 0 < z) (hlt : z < Binary64.limit) :
    ∃ x : Float, Reading.period z = .ok x := by
  have hz : z ≠ 0 := by omega
  cases hx : Binary64.ofInt? z with
  | none => exact absurd ((Binary64.ofInt?_eq_none_iff h).mp hx) (Int.not_le.mpr hlt)
  | some x => exact ⟨1.0 / x, by simp only [Reading.period, if_neg hz, hx]⟩

theorem period_of_le {z : Int} (h : 0 < z) (hle : Binary64.limit ≤ z) :
    Reading.period z = (.error .tooLarge : Except BadRate Float) := by
  have hz : z ≠ 0 := by omega
  simp only [Reading.period, if_neg hz, (Binary64.ofInt?_eq_none_iff h).mpr hle]

/-- A controller takes rates that floats hold. -/
theorem create_of_fit {c : Config} (hc : c.Accepted) (h : c.RatesFit) (m : Machine) :
    ∃ k : Controller Float,
      Controller.create m c.instructionsPerSecond c.timerFrequency c.trace = .ok k := by
  obtain ⟨x, hx⟩ := period_of_lt hc.instructionsPerSecond h.1
  obtain ⟨y, hy⟩ := period_of_lt hc.timerFrequency h.2
  unfold Controller.create
  rw [hx, hy]
  exact ⟨_, rfl⟩

theorem create_of_not_fit {c : Config} (hc : c.Accepted) (h : ¬ c.RatesFit) (m : Machine) :
    Controller.create m c.instructionsPerSecond c.timerFrequency c.trace =
      (.error .tooLarge : Except BadRate (Controller Float)) := by
  unfold Controller.create
  by_cases hips : c.instructionsPerSecond < Binary64.limit
  · obtain ⟨x, hx⟩ := period_of_lt hc.instructionsPerSecond hips
    have hhertz : Binary64.limit ≤ c.timerFrequency := Int.not_lt.mp fun hlt => h ⟨hips, hlt⟩
    rw [hx, period_of_le hc.timerFrequency hhertz]
  · rw [period_of_le hc.instructionsPerSecond (Int.not_lt.mp hips)]

/-- **An accepted configuration is usable exactly if its seed and its rates fit**, whatever documents and
overrides it comes from, with any program of up to 3584 bytes. Its level and its colour scheme are of use in
any case. -/
theorem usable_iff_fits {environment : String → Option String} {document : Option String}
    {overrides : List String} {c : Config} (h : load environment document overrides = .ok c)
    {rom : List UInt8} (hrom : rom.length ≤ 3584) :
    (c.Usable rom ↔ c.SeedFits ∧ c.RatesFit) ∧
      (∀ l : Logger, ∃ l', l.setLevel c.logLevel = .ok l') ∧
      ∃ s, Rendering.scheme c.colorScheme = .ok s := by
  have hc := accepted_load h
  refine ⟨⟨fun hu => ⟨?seed, ?rates⟩, fun ⟨hseed, hrates⟩ => ?fits⟩, setLevel_of_accepted hc,
    scheme_of_accepted hc⟩
  case seed =>
    refine Decidable.byContradiction fun hnot => ?_
    obtain ⟨key, hkey⟩ := hu.seed
    cases (ofSeed_of_not_fits hnot).symm.trans hkey
  case rates =>
    refine Decidable.byContradiction fun hnot => ?_
    obtain ⟨k, hk⟩ := hu.rates (Machine.start ⟨0, 0⟩)
    cases (create_of_not_fit hc hnot _).symm.trans hk
  case fits =>
    exact ⟨setLevel_of_accepted hc, ofSeed_of_fits hseed, loadRom_of_le hrom, scheme_of_accepted hc,
      create_of_fit hc hrates⟩

/-- The default configuration with the largest seed that fits. -/
def largestSeed : Config := { default with seed := 0x7FFFFFFFFFFFFFFF }

/-- With the largest seed that fits, the other settings being as they are by default, the configuration is
usable. -/
theorem usable_iff_fits_largestSeed : largestSeed.Usable [0x12, 0x00] := by
  have hload : load (fun _ => none) (some "seed: 9223372036854775807") [] = .ok largestSeed :=
    eq_ok_of_toOption (by decide +kernel)
  obtain ⟨hiff, -⟩ := usable_iff_fits hload (show [0x12, 0x00].length ≤ 3584 by decide)
  exact hiff.mpr (by decide +kernel)

end Config

/-! ### What the command line does with it -/

namespace CommandLine

open Config (Accepted accepted_default accepted_load)

variable {h : Host} {arguments : List String} {path : String} {c : Config} {rom : List UInt8}

theorem accepted_readConfig {file : String} (hc : readConfig h file = .ok c) : c.Accepted := by
  rw [readConfig_eq] at hc
  unfold configOf at hc
  split at hc
  case h_1 => cases hc
  case h_2 =>
    split at hc
    case h_1 => cases hc
    case h_2 => exact accepted_load hc

theorem accepted_configure (hc : configure h = .ok c) : c.Accepted := by
  unfold configure at hc
  split at hc
  case h_1 =>
    cases hc
    exact accepted_default
  case h_2 file _ =>
    split at hc
    case isTrue =>
      cases hc
      exact accepted_default
    case isFalse =>
      cases hread : readConfig h file with
      | error e =>
        rw [hread] at hc
        cases hc
      | ok c' =>
        rw [hread] at hc
        cases hc
        exact accepted_readConfig hread

/-- An accepted configuration is logged, and the program is run under it. -/
theorem run_of_accepted (hrun : Request.ofArguments arguments = .run path) (hc : configure h = .ok c)
    (hshort : ∀ f, c.isTooLong f = false) : ∃ logger out, run h arguments = runRom h c logger path out := by
  obtain ⟨level, hlevel⟩ := (accepted_configure hc).logLevel
  have hsettings : ¬ c.settings.length < Config.Field.all.length := by
    simp [Config.settings, Config.Field.all, List.takeWhile, hshort]
  unfold run runFile runLogged
  rw [hrun]
  dsimp only
  rw [hc]
  dsimp only
  rw [hlevel]
  dsimp only
  rw [if_neg hsettings]
  exact ⟨_, _, rfl⟩

/-- A machine that has its program does not run if the rates do not fit. -/
theorem ending_of_rates (hc : c.Accepted) (hrates : ¬ c.RatesFit) (logger : Logger) (m : Machine)
    (out : String) : (runMachine h c logger m out).ending = .escape (.rate .tooLarge) := by
  unfold runMachine Session.run
  rw [Config.create_of_not_fit hc hrates]

/-- If the rates fit, only a cycle can make it escape. -/
theorem escape_of_rates (hc : c.Accepted) (hrates : c.RatesFit) {logger : Logger} {m : Machine} {out : String}
    {e : Escape} (he : (runMachine h c logger m out).ending = .escape e) : ∃ failure, e = .cycle failure := by
  obtain ⟨k, hk⟩ := Config.create_of_fit hc hrates m
  unfold runMachine Session.run at he
  rw [hk] at he
  dsimp only at he
  split at he
  case h_1 hnone => cases hnone
  case h_5 failure _ _ => exact ⟨failure, (Ending.escape.inj he).symm⟩
  all_goals cases he

/-- **How a run under an accepted configuration can escape**, if the configuration can be logged and the
program can be read and fits. It does so before the first cycle exactly if the seed does not fit, or else the
rates do not. -/
theorem ending_of_accepted (hrun : Request.ofArguments arguments = .run path) (hc : configure h = .ok c)
    (hshort : ∀ f, c.isTooLong f = false) (hpath : path.toList.contains '\x00' = false)
    (hread : readRom h.read path = .ok rom) (hrom : rom.length ≤ 3584) :
    let ending := (run h arguments).ending
    (¬ c.SeedFits → ending = .escape (.seed ⟨c.seed⟩)) ∧
      (c.SeedFits → ¬ c.RatesFit → ending = .escape (.rate .tooLarge)) ∧
      (c.SeedFits → c.RatesFit → ∀ e, ending = .escape e → ∃ failure, e = .cycle failure) := by
  intro ending
  have haccepted := accepted_configure hc
  obtain ⟨logger, out, hrunRom⟩ := run_of_accepted hrun hc hshort
  have hending : ending = (runRom h c logger path out).ending := congrArg Outcome.ending hrunRom
  unfold runRom at hending
  simp only [hpath, hread] at hending
  by_cases hseed : c.SeedFits
  · obtain ⟨key, hkey⟩ := Config.ofSeed_of_fits hseed
    obtain ⟨m, hm⟩ := Config.loadRom_of_le hrom key
    simp only [hkey, hm] at hending
    refine ⟨fun hnot => absurd hseed hnot, fun _ hrates => ?_, fun _ hrates e he => ?_⟩
    · exact hending.trans (ending_of_rates haccepted hrates _ m _)
    · exact escape_of_rates haccepted hrates (hending.symm.trans he)
  · simp only [Config.ofSeed_of_not_fits hseed] at hending
    exact ⟨fun _ => hending, fun hfits => absurd hfits hseed, fun hfits => absurd hfits hseed⟩

/-- A seed that is accepted and not usable. -/
def beyondLargestSeed : Config := { Config.default with seed := 0x8000000000000000 }

/-- **The seed after the largest one that fits is accepted all the same.** The generator does not take it, and
the command line ends with an error that is not handled. -/
theorem escape_of_seed :
    readConfig (holding "seed: 9223372036854775808") "c.yaml" = .ok beyondLargestSeed ∧
      ¬ beyondLargestSeed.Usable [0x12, 0x00] ∧
      (run (holding "seed: 9223372036854775808") ["game.ch8"]).ending =
        .escape (.seed ⟨0x8000000000000000⟩) := by
  have hseed : ¬ beyondLargestSeed.SeedFits := by decide
  have hconfig : readConfig (holding "seed: 9223372036854775808") "c.yaml" = .ok beyondLargestSeed :=
    eq_ok_of_toOption (by decide +kernel)
  refine ⟨hconfig, fun hu => ?_, ?_⟩
  · obtain ⟨key, hkey⟩ := hu.seed
    cases (Config.ofSeed_of_not_fits hseed).symm.trans hkey
  · have hconfigure : configure (holding "seed: 9223372036854775808") = .ok beyondLargestSeed := by
      unfold configure
      rw [show (holding _).environment configVariable = some "c.yaml" from rfl]
      dsimp only
      rw [if_neg (by decide), hconfig]
      rfl
    have hread : readRom (holding "seed: 9223372036854775808").read "game.ch8" =
        .ok "seed: 9223372036854775808".toUTF8.toList := eq_ok_of_toOption (by decide +kernel)
    have hshort (f : Config.Field) : beyondLargestSeed.isTooLong f = false := by
      cases f <;> decide +kernel
    exact (ending_of_accepted (by decide +kernel) hconfigure hshort (by decide +kernel) hread
      (by decide +kernel)).1 hseed

end CommandLine

end Chip8
