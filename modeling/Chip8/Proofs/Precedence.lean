import Chip8.Proofs.LogHistory
import Chip8.Proofs.OverrideTree
import Chip8.Proofs.PlainWord
import Mathlib.Logic.Function.Basic

/-!
# Which value of a setting counts, and what is checked of it

A setting may be given a value by a file and by any number of overrides. The last override counts, without one the
file, and without that the default; the value that counts is converted to what the setting holds, and what is said
of one setting has no part in any other (`Sources.Counts`). Both merges go through if each value of the file and
the last override of each setting fit; that an earlier override does not fit is not noticed. Only after both merges
the settings are checked, so what a check finds wrong is no matter if it is overridden. The first setting that
violates its check is reported, with its name and its value, unless that has too many digits to be written
(`Sources.load_of_sources`).
-/

namespace Chip8.Config

/-! ### Configurations as drafts -/

/-- The configuration with these settings. -/
def ofSettings (a : (f : Field) → f.kind.Carrier) : Config where
  instructionsPerSecond := a .instructionsPerSecond
  timerFrequency := a .timerFrequency
  scale := a .scale
  colorScheme := a .colorScheme
  seed := a .seed
  logLevel := a .logLevel
  trace := a .trace

theorem get_ofSettings (a : (f : Field) → f.kind.Carrier) (f : Field) : (ofSettings a).get f = a f := by
  cases f <;> rfl

/-- Configurations with the same settings are the same. -/
theorem ext_get {c c' : Config} (h : ∀ f, c.get f = c'.get f) : c = c' := by
  have hsame : c.get = c'.get := funext h
  calc
    c = ofSettings c.get := rfl
    _ = ofSettings c'.get := by rw [hsame]
    _ = c' := rfl

/-- A configuration with one setting changed. -/
def set (c : Config) (f : Field) (a : f.kind.Carrier) : Config := ofSettings (Function.update c.get f a)

theorem get_set_self (c : Config) (f : Field) (a : f.kind.Carrier) : (c.set f a).get f = a := by
  rw [set, get_ofSettings, Function.update_self]

theorem get_set_of_ne (c : Config) {f g : Field} (h : g ≠ f) (a : f.kind.Carrier) :
    (c.set f a).get g = c.get g := by
  rw [set, get_ofSettings, Function.update_of_ne h]

/-- The draft in which all settings are given. -/
def toDraft (c : Config) : Draft := fun f => .given (c.get f)

theorem set_toDraft (c : Config) (f : Field) (a : f.kind.Carrier) :
    c.toDraft.set f (.given a) = (c.set f a).toDraft := by
  funext g
  unfold Draft.set toDraft
  split
  case isTrue h =>
    subst h
    rw [get_set_self]
  case isFalse h => rw [get_set_of_ne c h]

theorem get_toDraft (c : Config) (environment : String → Option String) (f : Field) :
    c.toDraft.get environment f = .ok (c.get f) := rfl

/-! ### Merging -/

/-- A value fits a setting: it is of a kind that configurations hold, and can be converted. -/
def Fits (f : Field) (v : Value) : Prop :=
  (∀ kind, v ≠ .foreign kind) ∧ ∃ a, convert f.kind (.ofValue v) = .ok a

/-- A list or a map is no setting. -/
theorem single_of_convert {f : Field} {v : Value} {a : f.kind.Carrier}
    (h : convert f.kind (.ofValue v) = .ok a) : v.isContainer = false := by
  cases hv : v.isContainer with
  | false => rfl
  | true =>
    cases v with
    | list items => cases f <;> cases h
    | pair a b => cases f <;> cases h
    | map es => cases f <;> cases h
    | _ => cases hv

/-- A literal value is converted when it is merged. -/
theorem merge_toDraft (c : Config) (f : Field) {v : Value} (hv : IsLiteral v) :
    c.toDraft.merge f v = match convert f.kind (.ofValue v) with
      | .ok a => .ok (c.set f a).toDraft
      | .error e => .error (.conversion f (e.writable v)) := by
  simp only [← set_toDraft]
  cases v with
  | text s =>
    obtain ⟨hrefers, hslashes⟩ := hv
    have hmissing : s ≠ Value.missing := by
      rintro rfl
      exact absurd hslashes (by decide)
    simp only [Draft.merge, beq_eq_false_iff_ne.mpr hmissing, hrefers]
    rfl
  | _ => rfl

/-- What a setting is after a merge, given what it was before. -/
def Merged (f : Field) (given : Option Value) (before after : f.kind.Carrier) : Prop :=
  match given with
  | some v => convert f.kind (.ofValue v) = .ok after
  | none => after = before

/-- Each setting is the last value that is given to it. -/
theorem mergeAll_of_ok {c : Config} {es : List (Field × Value)} (hes : ∀ e ∈ es, IsLiteral e.2) {d : Draft}
    (h : c.toDraft.mergeAll (es.map named) = .ok d) :
    ∃ c' : Config, d = c'.toDraft ∧ ∀ f, Merged f (latest? es f) (c.get f) (c'.get f) := by
  induction es using List.reverseRecOn generalizing d with
  | nil =>
    cases h
    exact ⟨c, rfl, fun f => rfl⟩
  | append_singleton es e ih =>
    rw [Draft.mergeAll, List.map_append, List.foldlM_append] at h
    obtain ⟨before, hbefore, h⟩ := bind_eq_ok h
    obtain ⟨c', rfl, hc'⟩ := ih (fun e' he' => hes e' (List.mem_append_left _ he')) hbefore
    rw [List.map_singleton, List.foldlM_cons] at h
    obtain ⟨after, hafter, h⟩ := bind_eq_ok h
    cases h
    simp only [named, Draft.mergeEntry, ofName?_name, merge_toDraft c' e.1 (hes e (by simp))] at hafter
    split at hafter
    case h_1 a ha =>
      cases hafter
      refine ⟨_, rfl, fun f => ?_⟩
      rw [latest?_concat]
      by_cases hf : e.1 = f
      · subst hf
        rw [if_pos rfl, get_set_self]
        exact ha
      · rw [if_neg hf, get_set_of_ne c' (Ne.symm hf)]
        exact hc' f
    case h_2 => cases hafter

/-- Values are merged if each of them can be converted. -/
theorem mergeAll_isOk_iff {c : Config} {es : List (Field × Value)} (hes : ∀ e ∈ es, IsLiteral e.2) :
    (∃ d, c.toDraft.mergeAll (es.map named) = .ok d) ↔
      ∀ e ∈ es, ∃ a, convert e.1.kind (.ofValue e.2) = .ok a := by
  induction es generalizing c with
  | nil => exact ⟨fun _ => nofun, fun _ => ⟨_, rfl⟩⟩
  | cons e es ih =>
    have hmerge := merge_toDraft c e.1 (hes e List.mem_cons_self)
    rw [List.forall_mem_cons, List.map_cons, Draft.mergeAll, List.foldlM_cons, named, Draft.mergeEntry,
      ofName?_name]
    dsimp only
    rw [hmerge]
    cases ha : convert e.1.kind (.ofValue e.2) with
    | error cause => simp [bind, Except.bind]
    | ok a =>
      rw [ok_bind]
      refine (ih fun e' he' => hes e' (List.mem_cons_of_mem e he')).trans ?_
      simp

/-! ### Checks -/

/-- The settings that are checked, in the order of the checks. -/
def checked : List Field := [.instructionsPerSecond, .timerFrequency, .scale, .logLevel, .colorScheme]

/-- A configuration violates the check of a setting. -/
def Violates (c : Config) : Field → Prop
  | .instructionsPerSecond => c.instructionsPerSecond ≤ 0
  | .timerFrequency => c.timerFrequency ≤ 0
  | .scale => c.scale ≤ 0
  | .logLevel => LogLevel.upperCase c.logLevel ∉ LogLevel.names
  | .colorScheme => c.colorScheme ∉ Rendering.schemeNames
  | .seed | .trace => False

instance (c : Config) : DecidablePred c.Violates
  | .instructionsPerSecond => inferInstanceAs (Decidable (_ ≤ _))
  | .timerFrequency => inferInstanceAs (Decidable (_ ≤ _))
  | .scale => inferInstanceAs (Decidable (_ ≤ _))
  | .logLevel => inferInstanceAs (Decidable (_ ∉ _))
  | .colorScheme => inferInstanceAs (Decidable (_ ∉ _))
  | .seed => inferInstanceAs (Decidable False)
  | .trace => inferInstanceAs (Decidable False)

theorem mem_checked_of_violates {c : Config} {f : Field} (h : c.Violates f) : f ∈ checked := by
  cases f with
  | seed => exact h.elim
  | trace => exact h.elim
  | _ => decide

/-- What is said between the name and the value of a setting that violates its check. -/
def demand : Field → String
  | .logLevel => " must be one of " ++ LogLevel.available ++ ", got "
  | .colorScheme => " must be one of " ++ Rendering.availableSchemes ++ ", got "
  | _ => " must be positive, got "

/-- A value in a report; a text is between quotation marks. -/
def shown : Value → String
  | .text s => "'" ++ s ++ "'"
  | v => v.toText

/-- What is reported of a setting that violates its check, unless its value has too many digits to be written. -/
def report (c : Config) (f : Field) : String :=
  if c.isTooLong f then Text.tooLongReport
  else f.name ++ demand f ++ shown (f.kind.toValue (c.get f))

/-- Why a configuration that violates the check of a setting is refused: a number that is not positive, a text
that is no name of a level, or one that is no name of a colour scheme. -/
def refusal? (c : Config) : Field → Option Error
  | .instructionsPerSecond => some (.notPositive .instructionsPerSecond c.instructionsPerSecond)
  | .timerFrequency => some (.notPositive .timerFrequency c.timerFrequency)
  | .scale => some (.notPositive .scale c.scale)
  | .logLevel => some (.unknownLevel c.logLevel)
  | .colorScheme => some (.unknownScheme c.colorScheme)
  | .seed | .trace => none

/-- Makes the check of a setting. -/
def check (c : Config) : Field → Except Error Unit
  | .instructionsPerSecond => Draft.positive .instructionsPerSecond c.instructionsPerSecond
  | .timerFrequency => Draft.positive .timerFrequency c.timerFrequency
  | .scale => Draft.positive .scale c.scale
  | .logLevel => if (LogLevel.ofText? c.logLevel).isNone then .error (.unknownLevel c.logLevel) else .ok ()
  | .colorScheme =>
    if !Rendering.schemeNames.contains c.colorScheme then .error (.unknownScheme c.colorScheme) else .ok ()
  | .seed | .trace => .ok ()

theorem check_of_not_violates {c : Config} {f : Field} (h : ¬ c.Violates f) : c.check f = .ok () := by
  cases f with
  | seed => rfl
  | trace => rfl
  | logLevel =>
    have hlevel := LogLevel.upperCase_mem_names_iff.mp (not_not.mp h)
    exact if_neg (by simp [Option.isSome_iff_ne_none.mp hlevel])
  | colorScheme => exact if_neg (by simpa [Violates] using h)
  | _ => exact if_neg h

/-- The text of a report about a name that is none of some names. -/
theorem append_quoted (name start names value : String) (hstart : name ++ " must be one of " = start) :
    name ++ (" must be one of " ++ names ++ ", got ") ++ ("'" ++ value ++ "'") =
      start ++ names ++ ", got '" ++ value ++ "'" := by
  have hquote : ", got " ++ "'" = ", got '" := by decide
  rw [← hstart, ← hquote]
  simp only [String.append_assoc]

/-- A check that is violated is reported. -/
theorem check_of_violates {c : Config} {f : Field} (h : c.Violates f) :
    ∃ e, c.refusal? f = some e ∧ c.check f = .error e ∧ e.message? = some (c.report f) := by
  cases f with
  | seed => exact h.elim
  | trace => exact h.elim
  | logLevel =>
    have hlevel : (LogLevel.ofText? c.logLevel).isNone = true := by
      simpa using mt LogLevel.upperCase_mem_names_iff.mpr h
    have hreport : c.report .logLevel = _ := if_neg Bool.false_ne_true
    refine ⟨_, rfl, if_pos hlevel, ?_⟩
    rw [hreport]
    exact congrArg some (append_quoted _ _ _ _ (by decide)).symm
  | colorScheme =>
    have hreport : c.report .colorScheme = _ := if_neg Bool.false_ne_true
    refine ⟨_, rfl, if_pos (by simpa [Violates] using h), ?_⟩
    rw [hreport]
    exact congrArg some (append_quoted _ _ _ _ (by decide)).symm
  | _ =>
    refine ⟨_, rfl, if_pos h, congrArg some (if_congr Iff.rfl rfl ?_)⟩
    rfl

/-- The checks come to the first one that is violated. -/
theorem forM_check (c : Config) (fs : List Field) :
    fs.forM c.check = match fs.find? (c.Violates ·) with
      | some f => c.check f
      | none => .ok () := by
  induction fs with
  | nil => rfl
  | cons f fs ih =>
    change (c.check f >>= fun _ => fs.forM c.check) = _
    rw [List.find?_cons]
    by_cases h : c.Violates f
    · obtain ⟨e, -, he, -⟩ := check_of_violates h
      simp only [h, decide_true, he]
      rfl
    · simp only [h, decide_false, check_of_not_violates h, ok_bind, ih]

/-- After the merges the checks are made, and that is all. -/
theorem finish_toDraft (c : Config) (environment : String → Option String) :
    c.toDraft.finish environment = (checked.forM c.check >>= fun _ => .ok c) := by
  unfold Draft.finish checked
  simp only [get_toDraft, ok_bind, List.forM_eq_forM, List.forM_cons, List.forM_nil, check, bind_assoc, get]
  refine bind_congr fun _ => bind_congr fun _ => bind_congr fun _ => ?_
  split <;> split <;> rfl

/-! ### Files -/

/-- The entries of a file are accepted if they are plain. -/
theorem acceptEntries_named {path : Path} {present : List Value} {es : List (Field × Value)}
    (hpresent : ∀ k ∈ present, ∃ s, k = .text s) (hsingle : ∀ e ∈ es, e.2.isContainer = false)
    (hliteral : ∀ e ∈ es, IsLiteral e.2) (r : List (Value × Value)) :
    acceptEntries path present (es.map named) = .ok r ↔
      (∀ e ∈ es, ∀ kind, e.2 ≠ .foreign kind) ∧ r = es.map named := by
  induction es generalizing present r with
  | nil =>
    rw [List.map_nil, acceptEntries]
    exact ⟨fun h => ⟨nofun, by cases h; rfl⟩, fun ⟨_, hr⟩ => congrArg Except.ok hr.symm⟩
  | cons e es ih =>
    have hkey : acceptKey path present (.text e.1.name) = .ok () := by
      have hnone : present.find? (conflicts (.text e.1.name)) = none := by
        rw [List.find?_eq_none]
        intro k hk
        obtain ⟨s, rfl⟩ := hpresent k hk
        exact Bool.false_ne_true
      simp only [acceptKey, hnone]
    have hpresent' : ∀ k ∈ present ++ [.text e.1.name], ∃ s, k = Value.text s := by
      intro k hk
      obtain hk | hk := List.mem_append.mp hk
      · exact hpresent k hk
      · exact ⟨_, List.mem_singleton.mp hk⟩
    have hrest := ih hpresent' (fun e' he' => hsingle e' (List.mem_cons_of_mem e he'))
      (fun e' he' => hliteral e' (List.mem_cons_of_mem e he'))
    rw [List.map_cons, named, acceptEntries, hkey, ok_bind, List.forall_mem_cons]
    constructor
    · intro h
      obtain ⟨v, hv, h⟩ := bind_eq_ok h
      obtain ⟨r', hr', h⟩ := bind_eq_ok h
      cases h
      obtain ⟨hheld, rfl⟩ := (hrest r').mp hr'
      have hv' := eq_of_accept (hliteral e List.mem_cons_self) (hsingle e List.mem_cons_self) hv
      refine ⟨⟨?_, hheld⟩, by rw [hv']⟩
      rintro kind hkind
      rw [hkind] at hv
      cases hv
    · rintro ⟨⟨hheld, hothers⟩, rfl⟩
      have hplain : IsPlain e.2 := ⟨hsingle e List.mem_cons_self, hliteral e List.mem_cons_self, hheld⟩
      rw [accept_plain hplain, ok_bind, (hrest _).mpr ⟨hothers, rfl⟩]
      rfl

/-! ### Sources -/

/-- What a configuration comes from: a file, if there is one, that gives plain values to settings, and overrides of
settings. -/
structure Sources where
  /-- The text of the file. -/
  file : Option String
  /-- The values that the file gives to settings. -/
  given : List (Field × Value)
  /-- The settings that are overridden, each with the text of its value. -/
  overrides : List (Field × String)
  /-- The file is a map from the names of the settings to their values. -/
  parsed : match file with
    | some text => Yaml.parse text = .ok (.map (given.map named))
    | none => given = []
  /-- No value in the file is a list or a map. -/
  single : ∀ e ∈ given, e.2.isContainer = false
  /-- The values in the file are literal. -/
  literal : ∀ e ∈ given, IsLiteral e.2
  /-- The values of the overrides are literal. -/
  overridesLiteral : Override.Literal overrides

namespace Sources

variable (s : Sources) (environment : String → Option String)

/-- Loads the configuration. -/
def load : Except Error Config := Config.load environment s.file (s.overrides.map Override.ofSetting)

/-- What the file adds to the defaults. -/
def fromFile : Except Error (List (Value × Value)) :=
  match s.file with
  | some text => readEntries text
  | none => .ok []

/-- Both merges: of the file into the defaults, and of the overrides into both. -/
def merged : Except Error Draft := do
  let draft ← Draft.initial.mergeAll (← s.fromFile)
  let fromOverrides ← Override.gather environment (s.overrides.map Override.ofSetting)
  draft.mergeAll fromOverrides

/-- What a setting holds: the value of its last override, or else its last value in the file, converted to what
the setting holds, or else the default. -/
def Counts (f : Field) (a : f.kind.Carrier) : Prop :=
  match latest? s.overrides f, latest? s.given f with
  | some text, _ => ∃ v, Yaml.parse text = .ok v ∧ convert f.kind (.ofValue v) = .ok a
  | none, some v => convert f.kind (.ofValue v) = .ok a
  | none, none => a = Config.default.get f

variable {s environment}

/-- The checks are made after both merges. -/
theorem load_eq : s.load environment = (s.merged environment >>= fun d => d.finish environment) := by
  unfold load merged fromFile Config.load
  cases s.file <;> simp only [bind_assoc]

theorem fromFile_eq_ok_iff (s : Sources) (r : List (Value × Value)) :
    s.fromFile = .ok r ↔ (∀ e ∈ s.given, ∀ kind, e.2 ≠ .foreign kind) ∧ r = s.given.map named := by
  have hparsed := s.parsed
  unfold fromFile
  split at hparsed
  case h_1 text htext =>
    have hentries : readEntries text = acceptEntries [] [] (s.given.map named) := by
      unfold readEntries
      rw [hparsed]
      rfl
    simp only [hentries]
    exact acceptEntries_named (by simp) s.single s.literal r
  case h_2 hnone =>
    rw [hparsed]
    simp [eq_comm]

theorem Counts.unique {f : Field} {a b : f.kind.Carrier} (ha : s.Counts f a) (hb : s.Counts f b) : a = b := by
  unfold Counts at ha hb
  split at ha
  case h_1 text hlast =>
    obtain ⟨v, hv, ha⟩ := ha
    simp only [hlast] at hb
    obtain ⟨v', hv', hb⟩ := hb
    cases hv.symm.trans hv'
    exact Except.ok.inj (ha.symm.trans hb)
  case h_2 v hnone hgiven =>
    simp only [hnone, hgiven] at hb
    exact Except.ok.inj (ha.symm.trans hb)
  case h_3 hnone hgiven =>
    simp only [hnone, hgiven] at hb
    exact ha.trans hb.symm

/-- A configuration is determined by what counts. -/
theorem eq_of_counts {c c' : Config} (h : ∀ f, s.Counts f (c.get f))
    (h' : ∀ f, s.Counts f (c'.get f)) : c = c' :=
  ext_get fun f => (h f).unique (h' f)

/-- What a setting is after both merges counts. -/
theorem counts_of_merged {es : List (Field × Value)} (hes : Override.Gathered es s.overrides) {f : Field}
    {between after : f.kind.Carrier} (hfile : Merged f (latest? s.given f) (Config.default.get f) between)
    (hoverrides : Merged f (latest? es f) between after) : s.Counts f after := by
  unfold Counts
  cases hlast : latest? s.overrides f with
  | none =>
    rw [hes.of_none hlast] at hoverrides
    cases hoverrides
    cases hgiven : latest? s.given f with
    | none =>
      rw [hgiven] at hfile
      exact hfile
    | some v =>
      rw [hgiven] at hfile
      exact hfile
  | some text =>
    obtain ⟨w, hw, v, hparse, hstands⟩ := hes.of_latest? hlast
    rw [hw] at hoverrides
    obtain rfl := hstands.eq_of_single (.inl (single_of_convert hoverrides))
    exact ⟨_, hparse, hoverrides⟩

/-- What both merges do, if they go through: a configuration between them and one after them. -/
theorem merged_cases {d : Draft} (h : s.merged environment = .ok d) :
    ∃ (es : List (Field × Value)) (between after : Config), d = after.toDraft ∧
      (∀ e ∈ s.given, ∀ kind, e.2 ≠ .foreign kind) ∧ Override.Gathered es s.overrides ∧
      Config.default.toDraft.mergeAll (s.given.map named) = .ok between.toDraft ∧
      between.toDraft.mergeAll (es.map named) = .ok after.toDraft ∧
      (∀ f, Merged f (latest? s.given f) (Config.default.get f) (between.get f)) ∧
      ∀ f, Merged f (latest? es f) (between.get f) (after.get f) := by
  unfold merged at h
  obtain ⟨r, hr, h⟩ := bind_eq_ok h
  obtain ⟨hheld, rfl⟩ := (fromFile_eq_ok_iff s r).mp hr
  obtain ⟨draft, hfile, h⟩ := bind_eq_ok h
  obtain ⟨entries, hentries, h⟩ := bind_eq_ok h
  obtain ⟨es, rfl, hes⟩ := Override.gather_of_ok s.overridesLiteral hentries
  obtain ⟨between, rfl, hbetween⟩ := mergeAll_of_ok (c := Config.default) s.literal hfile
  obtain ⟨after, rfl, hafter⟩ := mergeAll_of_ok hes.literal h
  exact ⟨es, between, after, rfl, hheld, hes, hfile, h, hbetween, hafter⟩

/-- **Both merges.** All settings are given after them, and each is what counts. -/
theorem merged_of_ok {d : Draft} (h : s.merged environment = .ok d) :
    ∃ c : Config, d = c.toDraft ∧ ∀ f, s.Counts f (c.get f) := by
  obtain ⟨es, between, after, rfl, -, hes, -, -, hbetween, hafter⟩ := merged_cases h
  exact ⟨after, rfl, fun f => counts_of_merged hes (hbetween f) (hafter f)⟩

/-- What is given fits, if both merges go through. -/
theorem fits_of_merged (hplain : Override.Plain s.overrides) {d : Draft} (h : s.merged environment = .ok d) :
    (∀ e ∈ s.given, Fits e.1 e.2) ∧
      ∀ f text, latest? s.overrides f = some text → ∃ v, Yaml.parse text = .ok v ∧ Fits f v := by
  obtain ⟨es, between, after, rfl, hheld, hes, hfile, hoverrides, -, -⟩ := merged_cases h
  have hgiven := (mergeAll_isOk_iff s.literal).mp ⟨_, hfile⟩
  have hconverted := (mergeAll_isOk_iff hes.literal).mp ⟨_, hoverrides⟩
  refine ⟨fun e he => ⟨hheld e he, hgiven e he⟩, fun f text hlast => ?_⟩
  obtain ⟨v, hparse, hv⟩ := hplain _ (mem_of_latest? hlast)
  obtain ⟨w, hw, v', hparse', hstands⟩ := hes.of_latest? hlast
  cases hparse.symm.trans hparse'
  obtain rfl := hstands.eq_of_single (.inr hv.single)
  exact ⟨_, hparse, hv.held, hconverted _ (mem_of_latest? hw)⟩

/-- Both merges go through, if what is given fits. Of the overrides the last of each setting is enough. -/
theorem merged_of_fits (hplain : Override.Plain s.overrides) (environment : String → Option String)
    (hgiven : ∀ e ∈ s.given, Fits e.1 e.2)
    (hlast : ∀ f text, latest? s.overrides f = some text → ∃ v, Yaml.parse text = .ok v ∧ Fits f v) :
    ∃ d, s.merged environment = .ok d := by
  have hfile : s.fromFile = .ok (s.given.map named) :=
    (fromFile_eq_ok_iff s _).mpr ⟨fun e he => (hgiven e he).1, rfl⟩
  obtain ⟨draft, hdraft⟩ := (mergeAll_isOk_iff s.literal).mpr fun e he => (hgiven e he).2
  obtain ⟨c, rfl, -⟩ := mergeAll_of_ok (c := Config.default) s.literal hdraft
  obtain ⟨entries, hentries⟩ := Override.gather_plain hplain environment
  obtain ⟨es, hsame, hes⟩ := Override.gather_of_ok s.overridesLiteral hentries
  have hconverted : ∀ e ∈ es, ∃ a, convert e.1.kind (.ofValue e.2) = .ok a := by
    intro e he
    obtain ⟨text, htext, v, hparse, hstands⟩ := hes.of_mem he
    obtain ⟨v', hparse', -, a, ha⟩ := hlast _ _ htext
    cases hparse.symm.trans hparse'
    obtain rfl := hstands.eq_of_single (.inr (single_of_convert ha))
    exact ⟨a, ha⟩
  obtain ⟨d, hd⟩ := (mergeAll_isOk_iff (c := c) hes.literal).mpr hconverted
  have hinitial : Draft.initial.mergeAll (s.given.map named) = .ok c.toDraft := hdraft
  exact ⟨d, by rw [merged, hfile, ok_bind, hinitial, ok_bind, hentries, ok_bind, hsame, hd]⟩

/-- After both merges the checks decide. -/
theorem load_of_merged {c : Config} (h : s.merged environment = .ok c.toDraft) :
    s.load environment = match checked.find? (c.Violates ·) with
      | some f => c.check f >>= fun _ => .ok c
      | none => .ok c := by
  rw [load_eq, h, ok_bind, finish_toDraft, forM_check]
  split <;> rfl

/-- The first setting that violates its check is reported. -/
theorem load_of_violates {c : Config} (h : s.merged environment = .ok c.toDraft) {f : Field}
    (hf : checked.find? (c.Violates ·) = some f) :
    ∃ e, c.refusal? f = some e ∧ s.load environment = .error e ∧ e.message? = some (c.report f) := by
  have hviolates := List.find?_some hf
  obtain ⟨e, hrefusal, he, hreport⟩ := check_of_violates (of_decide_eq_true hviolates)
  refine ⟨e, hrefusal, ?_, hreport⟩
  rw [load_of_merged h, hf]
  dsimp only
  rw [he]
  rfl

theorem counts_of_load {c : Config} (h : s.load environment = .ok c) (f : Field) : s.Counts f (c.get f) := by
  rw [load_eq] at h
  obtain ⟨d, hd, h⟩ := bind_eq_ok h
  obtain ⟨c', rfl, hc'⟩ := merged_of_ok hd
  rw [finish_toDraft] at h
  obtain ⟨_, -, h⟩ := bind_eq_ok h
  cases h
  exact hc' f

/-! ### Integers only -/

/-- Overrides of integers by integers. -/
def Integers (os : List (Field × String)) : Prop :=
  ∀ o ∈ os, o.1.kind = .integer ∧ ∃ z, Yaml.parse o.2 = .ok (.int z)

/-- A file that gives an integer to the scale, and overrides of integers by integers. -/
def scaled (text : String) (z : Int) (overrides : List (Field × String))
    (htext : Yaml.parse text = .ok (.map [(.text "scale", .int z)])) (hoverrides : Integers overrides) :
    Sources where
  file := some text
  given := [(.scale, .int z)]
  overrides := overrides
  parsed := htext
  single := by simp [Value.isContainer, Value.items?]
  literal := by simp [IsLiteral]
  overridesLiteral := by
    intro o ho v hv
    obtain ⟨-, z, hz⟩ := hoverrides o ho
    cases hz.symm.trans hv
    trivial

/-- Integers fit where there are integers. -/
theorem merged_scaled {text : String} {z : Int} {overrides : List (Field × String)}
    (htext : Yaml.parse text = .ok (.map [(.text "scale", .int z)])) (hoverrides : Integers overrides)
    (environment : String → Option String) :
    ∃ d, (scaled text z overrides htext hoverrides).merged environment = .ok d := by
  have hfits {f : Field} (hf : f.kind = .integer) (z : Int) : Fits f (.int z) := by
    refine ⟨nofun, ?_⟩
    rw [hf]
    exact ⟨z, rfl⟩
  have hplain : Override.Plain overrides := by
    intro o ho
    obtain ⟨-, z, hz⟩ := hoverrides o ho
    exact ⟨.int z, hz, rfl, trivial, nofun⟩
  refine merged_of_fits (s := scaled text z overrides htext hoverrides) hplain environment ?_
    fun f text' hlast => ?_
  · intro e he
    cases List.mem_singleton.mp he
    exact hfits rfl z
  · obtain ⟨hkind, z', hz'⟩ := hoverrides _ (mem_of_latest? hlast)
    exact ⟨.int z', hz', hfits hkind z'⟩

/-- The integer that a text is read as, by itself. -/
def integer? : Except Yaml.Error Value → Option Int
  | .ok (.int z) => some z
  | _ => none

theorem eq_of_integer? {x : Except Yaml.Error Value} {z : Int} (h : integer? x = some z) :
    x = .ok (.int z) := by
  unfold integer? at h
  split at h
  case h_1 =>
    cases h
    rfl
  case h_2 => cases h

/-- The integer that a text is read as, under the only key of a map. -/
def soleInteger? : Except Yaml.Error Value → Option (String × Int)
  | .ok (.map [(.text key, .int z)]) => some (key, z)
  | _ => none

theorem eq_of_soleInteger? {x : Except Yaml.Error Value} {key : String} {z : Int}
    (h : soleInteger? x = some (key, z)) : x = .ok (.map [(.text key, .int z)]) := by
  unfold soleInteger? at h
  split at h
  case h_1 =>
    cases h
    rfl
  case h_2 => cases h

theorem parse_goodScale : Yaml.parse "scale: 12" = .ok (.map [(.text "scale", .int 12)]) :=
  eq_of_soleInteger? (by decide +kernel)

/-- A file with a bad scale, and overrides the last of which is good. -/
def mended : Sources :=
  scaled "scale: 0" 0 [(.scale, "-3"), (.seed, "7"), (.scale, "12")] (eq_of_soleInteger? (by decide +kernel)) (by
    have h3 : Yaml.parse "-3" = .ok (.int (-3)) := eq_of_integer? (by decide +kernel)
    have h7 : Yaml.parse "7" = .ok (.int 7) := eq_of_integer? (by decide +kernel)
    have h12 : Yaml.parse "12" = .ok (.int 12) := eq_of_integer? (by decide +kernel)
    simp [Integers, h3, h7, h12])

/-- A file with a good scale, and overrides the last of which is bad. -/
def spoiled : Sources :=
  scaled "scale: 12" 12 [(.scale, "3"), (.scale, "0")] parse_goodScale (by
    have h3 : Yaml.parse "3" = .ok (.int 3) := eq_of_integer? (by decide +kernel)
    have h0 : Yaml.parse "0" = .ok (.int 0) := eq_of_integer? (by decide +kernel)
    simp [Integers, h3, h0])

/-! ### Precedence and checks -/

/-- **Precedence and checks.** If a configuration is loaded, each of its settings is what counts for it. If a
merge fails, so does loading; after both merges it fails exactly if a setting that counts violates its check. Then
the first such setting is reported, in the order of the checks, by a text with its name and its value, unless the
value has too many digits to be written; the error is that its number is not positive or its name unknown. What is
given to one setting has no part in any other. Both merges go through exactly if the values in the file and the last
overrides fit, where no override is by a list, a map or something that cannot be read. -/
theorem load_of_sources (s : Sources) (environment : String → Option String) :
    (∀ c, s.load environment = .ok c → ∀ f, s.Counts f (c.get f)) ∧
    (∀ e, s.merged environment = .error e → s.load environment = .error e) ∧
    (∀ d, s.merged environment = .ok d → ∃ c : Config, (∀ f, s.Counts f (c.get f)) ∧
      ((∃ e, s.load environment = .error e) ↔ ∃ f, c.Violates f) ∧
      (∀ f, checked.find? (c.Violates ·) = some f →
        ∃ e, c.refusal? f = some e ∧ s.load environment = .error e ∧ e.message? = some (c.report f)) ∧
      ((∀ f, ¬ c.Violates f) → s.load environment = .ok c)) ∧
    (∀ (s' : Sources) (environment' : String → Option String) (f : Field) (c c' : Config),
      latest? s'.given f = latest? s.given f → latest? s'.overrides f = latest? s.overrides f →
      s.load environment = .ok c → s'.load environment' = .ok c' → c'.get f = c.get f) ∧
    (Override.Plain s.overrides →
      ((∃ d, s.merged environment = .ok d) ↔
        (∀ e ∈ s.given, Fits e.1 e.2) ∧
          ∀ f text, latest? s.overrides f = some text → ∃ v, Yaml.parse text = .ok v ∧ Fits f v)) := by
  refine ⟨fun c => counts_of_load, fun e he => ?_, fun d hd => ?verdict,
    fun s' environment' f c c' hgiven hoverrides hc hc' => ?apart,
    fun hplain => ⟨fun ⟨d, hd⟩ => fits_of_merged hplain hd,
      fun ⟨hgiven, hlast⟩ => merged_of_fits hplain environment hgiven hlast⟩⟩
  · rw [load_eq, he]
    rfl
  case verdict =>
    obtain ⟨c, rfl, hc⟩ := merged_of_ok hd
    have hpassed (hnone : ∀ f, ¬ c.Violates f) : s.load environment = .ok c := by
      rw [load_of_merged hd, List.find?_eq_none.mpr fun f _ => by simpa using hnone f]
    refine ⟨c, hc, ⟨fun ⟨e, he⟩ => ?_, fun ⟨f, hf⟩ => ?_⟩, fun f => load_of_violates hd, hpassed⟩
    · refine Classical.byContradiction fun hnone => ?_
      cases (hpassed (not_exists.mp hnone)).symm.trans he
    · have hsome : (checked.find? (c.Violates ·)).isSome :=
        List.find?_isSome.mpr ⟨f, mem_checked_of_violates hf, by simpa using hf⟩
      obtain ⟨g, hg⟩ := Option.isSome_iff_exists.mp hsome
      obtain ⟨e, -, he, -⟩ := load_of_violates hd hg
      exact ⟨e, he⟩
  case apart =>
    have hcounts := counts_of_load hc' f
    rw [Counts, hgiven, hoverrides] at hcounts
    exact Counts.unique hcounts (counts_of_load hc f)

/-- A bad scale in the file does no harm if it is overridden, and a good one is of no use. -/
theorem load_of_sources_scale :
    mended.load (fun _ => none) = .ok { Config.default with scale := 12, seed := 7 } ∧
      spoiled.load (fun _ => none) = .error (.notPositive .scale 0) ∧
      (Error.notPositive .scale 0).message? = some "scale must be positive, got 0" := by
  have hread (text : String) {z : Int} (h : integer? (Yaml.parse text) = some z) :
      ∃ v, Yaml.parse text = .ok v ∧ toInteger (.ofValue v) = .ok z := ⟨_, eq_of_integer? h, rfl⟩
  refine ⟨?_, ?_⟩
  · obtain ⟨-, -, hverdict, -⟩ := load_of_sources mended fun _ => none
    obtain ⟨d, hd⟩ : ∃ d, mended.merged (fun _ => none) = .ok d := merged_scaled _ _ _
    obtain ⟨c, hcounts, -, -, hpassed⟩ := hverdict d hd
    have hexpected (f : Field) :
        mended.Counts f (({ Config.default with scale := 12, seed := 7 } : Config).get f) := by
      cases f with
      | scale => exact hread "12" (by decide +kernel)
      | seed => exact hread "7" (by decide +kernel)
      | _ => rfl
    obtain rfl := eq_of_counts hcounts hexpected
    exact hpassed (by intro f; cases f <;> decide +kernel)
  · obtain ⟨-, -, hverdict, -⟩ := load_of_sources spoiled fun _ => none
    obtain ⟨d, hd⟩ : ∃ d, spoiled.merged (fun _ => none) = .ok d := merged_scaled _ _ _
    obtain ⟨c, hcounts, -, hfirst, -⟩ := hverdict d hd
    have hexpected (f : Field) : spoiled.Counts f (({ Config.default with scale := 0 } : Config).get f) := by
      cases f with
      | scale => exact hread "0" (by decide +kernel)
      | _ => rfl
    obtain rfl := eq_of_counts hcounts hexpected
    obtain ⟨e, hrefusal, he, hreport⟩ := hfirst .scale (by decide +kernel)
    cases hrefusal
    exact ⟨he, hreport.trans (by decide +kernel)⟩

/-- If a good scale is overridden by a bad one with too many digits, what is reported is that they are too many. -/
theorem tooLong_of_scaled {text : String} {z : Int} (hparse : Yaml.parse text = .ok (.int z)) (hz : z ≤ 0)
    (hlong : Text.isTooLong z = true) :
    ∃ (s : Sources) (c : Config), s.file = some "scale: 12" ∧ s.overrides = [(.scale, text)] ∧
      (∀ f, s.Counts f (c.get f)) ∧ checked.find? (c.Violates ·) = some .scale ∧
      s.load (fun _ => none) = .error (.notPositive .scale z) ∧
      (Error.notPositive .scale z).message? = some Text.tooLongReport := by
  have hoverrides : Integers [(.scale, text)] := by simp [Integers, hparse, Field.kind]
  obtain ⟨d, hd⟩ := merged_scaled parse_goodScale hoverrides fun _ => none
  obtain ⟨c, rfl, hcounts⟩ := merged_of_ok hd
  have hexpected (f : Field) : (scaled "scale: 12" 12 [(.scale, text)] parse_goodScale hoverrides).Counts f
      (({ Config.default with scale := z } : Config).get f) := by
    cases f with
    | scale => exact ⟨_, hparse, rfl⟩
    | _ => rfl
  obtain rfl := eq_of_counts hcounts hexpected
  have hviolates : ({ Config.default with scale := z } : Config).Violates .scale := hz
  have hfirst : checked.find? (({ Config.default with scale := z } : Config).Violates ·) = some .scale := by
    rw [checked, List.find?_cons_of_neg (by simp [Violates, Config.default]),
      List.find?_cons_of_neg (by simp [Violates, Config.default]),
      List.find?_cons_of_pos (by simpa using hviolates)]
  obtain ⟨e, hrefusal, he, hreport⟩ := load_of_violates hd hfirst
  cases hrefusal
  exact ⟨_, _, rfl, rfl, hcounts, hfirst, he, hreport.trans (congrArg some (if_pos hlong))⟩

/-- A power of sixteen may have too many digits to be written. -/
theorem isTooLong_negativePower {n : Nat} (hn : Nat.pow 10 Text.digitLimit ≤ Nat.pow 16 n) :
    Text.isTooLong (-(Nat.pow 16 n : Nat)) = true := by
  refine decide_eq_true ?_
  rw [Int.natAbs_neg, Int.natAbs_natCast]
  exact hn

/-- What is reported then does not start as reports about the scale do. -/
theorem tooLongReport_ne_scale (shown : String) :
    Text.tooLongReport ≠ "scale must be positive, got " ++ shown := by
  intro h
  have hdigits : Text.tooLongReport.toList.head? = some 'E' := by decide +kernel
  have hscale : ("scale must be positive, got " ++ shown).toList.head? = some 's' := by
    rw [String.toList_append]
    rfl
  rw [h, hscale] at hdigits
  exact absurd hdigits (by decide)

/-- **A bad scale may be reported without its name.** A good scale is overridden by a negative one with more digits
than are written. So the scale is the first setting that violates its check, but what is reported does not start as
reports about the scale do. -/
theorem not_named_overlong :
    ∃ (s : Sources) (c : Config), s.file = some "scale: 12" ∧
      s.overrides = [(.scale, String.ofList ('-' :: '0' :: 'x' :: '1' :: List.replicate 3600 '0'))] ∧
      (∀ f, s.Counts f (c.get f)) ∧ checked.find? (c.Violates ·) = some .scale ∧
      ∃ e report, s.load (fun _ => none) = .error e ∧ e.message? = some report ∧
        ∀ shown, report ≠ "scale must be positive, got " ++ shown := by
  have hscaled (n : Nat) (hn : Nat.pow 10 Text.digitLimit ≤ Nat.pow 16 n) :=
    have hnegative := Int.neg_nonpos_of_nonneg (Int.natCast_nonneg (Nat.pow 16 n))
    tooLong_of_scaled (Yaml.parse_negativePower n) hnegative (isTooLong_negativePower hn)
  obtain ⟨s, c, hfile, hoverrides, hcounts, hfirst, he, hreport⟩ := hscaled 3600 (by decide +kernel)
  exact ⟨s, c, hfile, hoverrides, hcounts, hfirst, _, _, he, hreport, tooLongReport_ne_scale⟩

end Sources

end Chip8.Config
