import Chip8.Proofs.Explained

/-!
# What is told of a refused configuration

The command line reports a configuration that it refuses by one line of the log and leaves with a
status of one, but not always: no report is given of a text that is no document, of a list, and of a
text that stands for a text of one of these kinds or for a single value (`Unreported`). These are
exactly the texts for which the error escapes; every other refusal is explained, by what is known of
trees and drafts (`explainsUnless_load`).

Left out of `Unreported` are texts of two kinds, for which a reader with less room or with other strings would
fail without a report: those nested too deeply for a stack of limited depth, as every depth is read here, and those
with halves of surrogate pairs, as no string has them here.

Either way nothing else happens: with the same configuration file the command line does the same,
whatever the program, the other files and the events of the window are.
-/

/-! ### The value of a text -/

namespace Chip8.Yaml

/-- A value that a text may hold by itself: a pair stands only in a list, and question marks behind
backslashes stand for themselves only in a tree. -/
def Whole : Value → Prop
  | .pair .. | .questionMarks _ => False
  | _ => True

theorem whole_of_map {ε α : Type} {x : Except ε α} {f : α → Value} (hf : ∀ a, Whole (f a)) {v : Value}
    (h : x.map f = .ok v) : Whole v := by
  cases x with
  | error e => cases h
  | ok a => exact Except.ok.inj h ▸ hf a

theorem Scalar.whole_value {k : Kind} {s : String} {v : Value} (h : value k s = .ok v) :
    Whole v := by
  unfold value at h
  split at h
  · cases h
    trivial
  · cases h
    trivial
  · split at h <;> cases h
    trivial
  · exact whole_of_map (fun _ => by trivial) h
  · exact whole_of_map (fun _ => by trivial) h
  · split at h
    · split at h <;> cases h
      trivial
    · cases h
  · exact whole_of_map (fun _ => by trivial) h
  · cases h

theorem whole_scalarValue {fuel : Nat} {n : Node} {v : Value} (h : scalarValue fuel n = .ok v) :
    Whole v := by
  unfold scalarValue at h
  split at h
  · exact Scalar.whole_value h
  · cases h

/-- Whatever value a look at a document gives is whole. -/
def GivesWhole (l : Look Value) : Prop := ∀ s v s', l s = .ok (v, s') → Whole v

namespace GivesWhole

theorem pure {v : Value} (h : Whole v) : GivesWhole (Pure.pure v) := by
  intro s w s' hv
  cases hv
  exact h

theorem bind {α : Type} {x : Look α} {f : α → Look Value} (h : ∀ a, GivesWhole (f a)) :
    GivesWhole (x >>= f) := by
  intro s v s' hv
  simp only [Bind.bind, StateT.bind] at hv
  cases hx : x s with
  | error e =>
    rw [hx] at hv
    cases hv
  | ok r =>
    rw [hx] at hv
    exact h r.1 r.2 v s' hv

theorem lift {x : Except Error Value} (h : ∀ v, x = .ok v → Whole v) : GivesWhole (liftM x) := by
  intro s v s' hv
  cases x with
  | error e => cases hv
  | ok w =>
    cases hv
    exact h v rfl

end GivesWhole

theorem givesWhole_build (fuel : Nat) (n : Node) : GivesWhole (build fuel n) := by
  cases fuel with
  | zero =>
    intro s v s' h
    cases h
  | succ fuel =>
    unfold build
    split
    · exact .pure trivial
    · exact .bind fun _ => .pure trivial
    · exact .bind fun _ => .pure trivial
    · exact .bind fun _ => .bind fun _ => .pure trivial
    · exact .lift fun _ => whole_scalarValue

/-- The value of a text is whole. -/
theorem whole_of_parse {text : String} {v : Value} (h : parse text = .ok v) : Whole v := by
  unfold parse at h
  cases hroot : Node.ofText text with
  | error e =>
    rw [hroot] at h
    cases h
  | ok root =>
    let fuel := text.length + 2
    let look : Look Value := do
      survey fuel (← surveyValue fuel root)
      build fuel root
    have hlook : GivesWhole look := .bind fun _ => .bind fun _ => givesWhole_build fuel root
    rw [hroot] at h
    change (look ⟨[], []⟩).map (·.1) = _ at h
    cases hrun : look ⟨[], []⟩ with
    | error e =>
      rw [hrun] at h
      cases h
    | ok r =>
      rw [hrun] at h
      cases h
      exact hlook _ _ _ hrun

end Chip8.Yaml

/-! ### Texts of which no report is given -/

namespace Chip8.Config

open CommandLine (isReported)

/-- A text is no document, and no report says why. -/
def Unread (text : String) : Prop := ∃ cause, Yaml.parse text = .error cause ∧ cause.message? = none

/-- A value is a list of which a tree can be made. -/
def IsSequence (v : Value) : Prop :=
  ∃ items tree, v = .list items ∧ accept [] (.list items) = .ok tree

/-- A value stands alone: it is something, and no text, list or map. -/
def StandsAlone : Value → Prop
  | .null | .text _ | .list _ | .map _ => False
  | _ => True

/-- No report is given of a text: it cannot be read, or is a list, or is a text that cannot be read,
is a list or is a value that stands alone. -/
def Unreported (text : String) : Prop :=
  Unread text ∨ (∃ v, Yaml.parse text = .ok v ∧ IsSequence v) ∨
    ∃ inner, Yaml.parse text = .ok (.text inner) ∧
      (Unread inner ∨ ∃ v, Yaml.parse inner = .ok v ∧ (IsSequence v ∨ StandsAlone v))

theorem not_sequence_or_alone {v : Value} (hlist : ∀ items, v ≠ .list items)
    (halone : ¬ StandsAlone v) : ¬ (IsSequence v ∨ StandsAlone v)
  | .inl ⟨items, _, hv, _⟩ => hlist items hv
  | .inr h => halone h

/-- A computation fails with an error that is not reported if `p` holds, and else it only fails with
an explanation. -/
structure ExplainsUnless {α : Type} (p : Prop) (x : Except Error α) : Prop where
  unreported : p → ∃ e, x = .error e ∧ isReported e = false
  explains : ¬ p → Explains x

namespace ExplainsUnless

variable {α β : Type} {p q : Prop} {x : Except Error α}

theorem of_not (hp : ¬ p) (hx : Explains x) : ExplainsUnless p x :=
  ⟨fun h => absurd h hp, fun _ => hx⟩

theorem error {e : Error} (hp : p) (he : isReported e = false) :
    ExplainsUnless p (.error e : Except Error α) :=
  ⟨fun _ => ⟨e, rfl, he⟩, fun h => absurd hp h⟩

theorem bind {f : α → Except Error β} (hx : ExplainsUnless p x) (hf : ∀ a, Explains (f a)) :
    ExplainsUnless p (x >>= f) where
  unreported hp := by
    obtain ⟨e, rfl, he⟩ := hx.unreported hp
    exact ⟨e, rfl, he⟩
  explains hp := (hx.explains hp).bind hf

theorem congr (hx : ExplainsUnless p x) (hpq : p ↔ q) : ExplainsUnless q x :=
  ⟨fun hq => hx.unreported (hpq.mpr hq), fun hq => hx.explains (mt hpq.mp hq)⟩

end ExplainsUnless

theorem explainsUnless_malformed {α : Type} {text : String} {cause : Yaml.Error}
    (h : Yaml.parse text = .error cause) :
    ExplainsUnless (Unread text) (.error (.malformed cause) : Except Error α) := by
  cases hm : cause.message? with
  | none => exact .error ⟨cause, h, hm⟩ (by rw [isReported, hm]; rfl)
  | some report =>
    refine .of_not ?_ (.error ⟨by rw [isReported, hm]; rfl, report, hm⟩)
    rintro ⟨cause', h', hm'⟩
    cases h.symm.trans h'
    rw [hm] at hm'
    cases hm'

theorem explainsUnless_nestedEntries (v : Value) :
    ExplainsUnless (IsSequence v ∨ StandsAlone v) (nestedEntries v) := by
  cases v with
  | null => exact .of_not (not_sequence_or_alone nofun id) (.ok _)
  | text s => exact .of_not (not_sequence_or_alone nofun id) (.ok _)
  | map es => exact .of_not (not_sequence_or_alone nofun id) (explains_acceptEntries _ _ _)
  | list items =>
    rw [nestedEntries]
    cases htree : accept [] (.list items) with
    | ok tree => exact .error (.inl ⟨items, tree, rfl, htree⟩) rfl
    | error e =>
      refine .of_not (not_or.mpr ⟨?_, id⟩) (.error (explains_accept _ _ e htree))
      rintro ⟨items', tree, hv, hok⟩
      cases hv
      rw [htree] at hok
      cases hok
  | _ => exact .error (.inr trivial) rfl

theorem explainsUnless_readEntries (text : String) :
    ExplainsUnless (Unreported text) (readEntries text) := by
  unfold readEntries
  cases hparse : Yaml.parse text with
  | error cause =>
    refine (explainsUnless_malformed hparse).congr ?_
    simp [Unreported, hparse]
  | ok v =>
    have hwhole := Yaml.whole_of_parse hparse
    cases v with
    | pair a b => exact hwhole.elim
    | questionMarks n => exact hwhole.elim
    | text s =>
      simp only [entries]
      cases hinner : Yaml.parse s with
      | error cause =>
        refine (explainsUnless_malformed hinner).congr ?_
        simp [Unreported, Unread, IsSequence, hparse, hinner]
      | ok w =>
        refine (explainsUnless_nestedEntries w).congr ?_
        simp [Unreported, Unread, IsSequence, hparse, hinner]
    -- Of the rest, what is no single value is gone through as in a text of its own.
    | null =>
      refine (explainsUnless_nestedEntries .null).congr ?_
      simp [Unreported, Unread, StandsAlone, hparse]
    | list items =>
      refine (explainsUnless_nestedEntries (.list items)).congr ?_
      simp [Unreported, Unread, StandsAlone, hparse]
    | map es =>
      refine (explainsUnless_nestedEntries (.map es)).congr ?_
      simp [Unreported, Unread, StandsAlone, hparse]
    | _ =>
      refine .of_not ?_ (.error ⟨rfl, _, rfl⟩)
      simp [Unreported, Unread, IsSequence, hparse]

/-- **No report.** A text fails to become a configuration without a report exactly if it is one of
which none is given. -/
theorem explainsUnless_load (environment : String → Option String) (text : String) :
    ExplainsUnless (Unreported text) (load environment (some text) []) :=
  (explainsUnless_readEntries text).bind fun es =>
    (Draft.initial.explains_mergeAll es).bind fun d =>
      (Explains.ok []).bind fun none =>
        (d.explains_mergeAll none).bind fun d' => d'.explains_finish environment

end Chip8.Config

/-! ### What the command line does -/

namespace Chip8.CommandLine

open Config (Unreported ExplainsUnless explainsUnless_load)

/-- The path at which the file of a configuration is read. -/
def readPath (file : String) : String :=
  if (plainPath file).isEmpty then "." else plainPath file

/-- The configuration of a file, given what reading it gives. -/
def configOf (environment : String → Option String) (file : String) :
    Except ReadError (List UInt8) → Except Config.Error Config
  | .error cause => .error (.unreadable (plainPath file) cause)
  | .ok bytes =>
    match Text.decodeUtf8 bytes with
    | .error cause => .error (.undecodable cause)
    | .ok text => Config.load environment (some text) []

theorem readConfig_eq (h : Host) (file : String) :
    readConfig h file = configOf h.environment file (h.read (readPath file)) := rfl

/-- No report is given of the configuration in a file: it is a text, and none is given of that. -/
def Untold (h : Host) (file : String) : Prop :=
  ∃ bytes text,
    h.read (readPath file) = .ok bytes ∧ Text.decodeUtf8 bytes = .ok text ∧ Unreported text

theorem explainsUnless_readConfig (h : Host) (file : String) :
    ExplainsUnless (Untold h file) (readConfig h file) := by
  rw [readConfig_eq]
  cases hread : h.read (readPath file) with
  | error cause =>
    refine .of_not ?_ (.error ⟨rfl, _, rfl⟩)
    simp [Untold, hread]
  | ok bytes =>
    simp only [configOf]
    cases htext : Text.decodeUtf8 bytes with
    | error cause =>
      refine .of_not ?_ (.error ⟨rfl, _, rfl⟩)
      simp [Untold, hread, htext]
    | ok text =>
      refine (explainsUnless_load h.environment text).congr ?_
      simp [Untold, hread, htext]

/-- The line of the log about a refused configuration. -/
def refusalLine (now : Float) (file report : String) : String :=
  (logger now).line now .error ("Invalid configuration " ++ Text.quoted file ++ ": " ++ report)

/-- What the command line does about a refused configuration. -/
def refusal (now : Float) (file : String) (e : Config.Error) : Outcome :=
  if isReported e then ⟨refusalLine now file (e.message?.getD ""), "", .exit 1⟩
  else ⟨"", "", .escape (.config e)⟩

variable {h : Host} {arguments : List String} {rom file : String} {e : Config.Error}

/-- If the configuration is refused, nothing but that is done. -/
theorem run_of_refused (hrun : Request.ofArguments arguments = .run rom)
    (hfile : h.environment configVariable = some file) (hnamed : file ≠ "")
    (he : readConfig h file = .error e) : run h arguments = refusal h.now file e := by
  have hconfigure : configure h = .error (file, e) := by
    unfold configure
    rw [hfile]
    dsimp only
    rw [if_neg (by simpa using hnamed), he]
    rfl
  unfold run
  rw [hrun]
  dsimp only
  unfold runFile
  rw [hconfigure]
  rfl

/-- Nothing is told of a refused configuration exactly if its error is not reported. -/
theorem untold_iff (he : readConfig h file = .error e) : Untold h file ↔ isReported e = false := by
  have hexplains := explainsUnless_readConfig h file
  refine ⟨fun huntold => ?_, fun hreported => Classical.byContradiction fun htold => ?_⟩
  · obtain ⟨e', he', hreported⟩ := hexplains.unreported huntold
    cases he.symm.trans he'
    exact hreported
  · exact Bool.false_ne_true (hreported.symm.trans (hexplains.explains htold e he).1)

/-- **Refused configurations.** If no report is given of the configuration in a file, it is refused
and the error escapes; any other configuration that is refused is reported by one line of the log
and a status of one. Whatever is refused, the program is not read and no window is opened: what
happens depends on the environment, the clock and that file alone. -/
theorem refused_reported_unless_untold (hrun : Request.ofArguments arguments = .run rom)
    (hfile : h.environment configVariable = some file) (hnamed : file ≠ "") :
    (Untold h file →
      ∃ e, readConfig h file = .error e ∧ run h arguments = ⟨"", "", .escape (.config e)⟩) ∧
    (¬ Untold h file → ∀ e, readConfig h file = .error e →
      ∃ report, e.message? = some report ∧
        run h arguments = ⟨refusalLine h.now file report, "", .exit 1⟩) ∧
    ∀ e, readConfig h file = .error e → ∀ (h' : Host) (arguments' : List String) (rom' : String),
      Request.ofArguments arguments' = .run rom' → h'.environment = h.environment →
      h'.now = h.now → h'.read (readPath file) = h.read (readPath file) →
      run h' arguments' = run h arguments := by
  have hexplains := explainsUnless_readConfig h file
  refine ⟨fun huntold => ?_, fun htold e he => ?_, ?_⟩
  · obtain ⟨e, he, hreported⟩ := hexplains.unreported huntold
    refine ⟨e, he, ?_⟩
    rw [run_of_refused hrun hfile hnamed he, refusal, hreported]
    rfl
  · obtain ⟨hreported, report, hreport⟩ := hexplains.explains htold e he
    refine ⟨report, hreport, ?_⟩
    rw [run_of_refused hrun hfile hnamed he, refusal, if_pos hreported, hreport]
    rfl
  · intro e he h' arguments' rom' hrun' henvironment hnow hread
    have he' : readConfig h' file = .error e := by
      rw [readConfig_eq, henvironment, hread, ← readConfig_eq, he]
    rw [run_of_refused hrun hfile hnamed he,
      run_of_refused hrun' (henvironment ▸ hfile) hnamed he', hnow]

/-- A host on which every file holds a text, also the one that is named for the configuration. -/
def holding (text : String) : Host where
  environment name := if name = configVariable then some "c.yaml" else none
  read _ := .ok text.toUTF8.toList
  frames := []
  now := 0.0

/-- Whether a configuration is refused with a report, and the report of its error. -/
def verdict? : Except Config.Error Config → Option (Bool × Option String)
  | .error e => some (isReported e, e.message?)
  | .ok _ => none

theorem eq_error_of_verdict? {x : Except Config.Error Config} {b : Bool} {report : Option String}
    (hx : verdict? x = some (b, report)) :
    ∃ e, x = .error e ∧ isReported e = b ∧ e.message? = report := by
  cases x with
  | ok config => cases hx
  | error e => exact ⟨e, rfl, Prod.ext_iff.mp (Option.some.inj hx)⟩

/-- A scale of zero is reported, and of a list that is not closed nothing is told. -/
theorem refused_reported_unless_untold_scale :
    (¬ Untold (holding "scale: 0") "c.yaml" ∧
      run (holding "scale: 0") ["game.ch8"] =
        ⟨refusalLine 0.0 "c.yaml" "scale must be positive, got 0", "", .exit 1⟩) ∧
    Untold (holding "scale: [") "c.yaml" ∧
      ∃ e, run (holding "scale: [") ["game.ch8"] = ⟨"", "", .escape (.config e)⟩ := by
  have hrun : Request.ofArguments ["game.ch8"] = .run "game.ch8" := by decide +kernel
  have hfile (text : String) : (holding text).environment configVariable = some "c.yaml" := rfl
  refine ⟨?_, ?_⟩
  · obtain ⟨e, he, hreported, hreport⟩ := eq_error_of_verdict?
      (show verdict? (readConfig (holding "scale: 0") "c.yaml") =
        some (true, some "scale must be positive, got 0") by decide +kernel)
    have htold : ¬ Untold (holding "scale: 0") "c.yaml" := by
      rw [untold_iff he, hreported]
      exact Bool.noConfusion
    obtain ⟨report, hreport', houtcome⟩ :=
      (refused_reported_unless_untold hrun (hfile "scale: 0") (by decide)).2.1 htold e he
    cases hreport.symm.trans hreport'
    exact ⟨htold, houtcome⟩
  · obtain ⟨e, he, hreported, -⟩ := eq_error_of_verdict?
      (show verdict? (readConfig (holding "scale: [") "c.yaml") = some (false, none) by
        decide +kernel)
    have huntold := (untold_iff he).mpr hreported
    obtain ⟨e', -, houtcome⟩ :=
      (refused_reported_unless_untold hrun (hfile "scale: [") (by decide)).1 huntold
    exact ⟨huntold, e', houtcome⟩

/-- A list in the file of the configuration is refused, and the error escapes without a line of the
log and without a status. -/
theorem escape_of_list :
    ∃ e, readConfig (holding "[1]") "c.yaml" = .error e ∧
      run (holding "[1]") ["game.ch8"] = ⟨"", "", .escape (.config e)⟩ := by
  obtain ⟨e, he, hreported, -⟩ := eq_error_of_verdict?
    (show verdict? (readConfig (holding "[1]") "c.yaml") = some (false, none) by decide +kernel)
  have hrun : Request.ofArguments ["game.ch8"] = .run "game.ch8" := by decide +kernel
  refine ⟨e, he, ?_⟩
  rw [run_of_refused hrun rfl (by decide) he, refusal, hreported]
  rfl

end Chip8.CommandLine
