import Chip8.Log

/-!
# What a logger writes in the course of time

A logger is used by any calls in any order: its level is changed, it is asked whether a level is written, and
messages are logged, also all settings at once. A text that names no level is refused, and then nothing is
written and nothing changed. The level may be held as a name and, beside it, as the place of that name among
all (`HeldLevel`), both being set by a call that may fail; the place is always that of the name, and both
stand for the level of the logger. So what is written by any calls is one line for each message at or above the
level that was set last (`Logger.written_of_calls`), and a logger that starts with a higher level leaves lines
out, but adds none.
-/

namespace Chip8

namespace LogLevel

/-- The names of the levels, the least grave first. -/
def names : List String := all.map name

/-- A text in upper case. -/
def upperCase (text : String) : String := String.ofList (text.toList.map upper)

theorem mem_all (level : LogLevel) : level ∈ all := by cases level <;> decide

theorem mem_names (level : LogLevel) : level.name ∈ names := List.mem_map_of_mem (mem_all level)

/-- The place of a level is that of its name. -/
theorem idxOf_name (level : LogLevel) : names.idxOf level.name = level.rank := by cases level <;> decide

theorem idxOf?_name (level : LogLevel) : names.idxOf? level.name = some level.rank := by cases level <;> decide

theorem name_injective {a b : LogLevel} (h : a.name = b.name) : a = b := by
  revert h
  cases a <;> cases b <;> decide

/-- A text names a level if in upper case it is its name. -/
theorem ofText?_eq_some_iff {text : String} {level : LogLevel} :
    ofText? text = some level ↔ upperCase text = level.name := by
  have hmatch (l : LogLevel) : (l.name.toList == text.toList.map upper) = true ↔ upperCase text = l.name := by
    rw [beq_iff_eq, upperCase, ← String.toList_inj, String.toList_ofList]
    exact eq_comm
  have hfound {l : LogLevel} (h : ofText? text = some l) : upperCase text = l.name := by
    unfold ofText? at h
    have hl := List.find?_some h
    exact (hmatch l).mp hl
  refine ⟨hfound, fun h => ?_⟩
  cases hl : ofText? text with
  | none =>
    unfold ofText? at hl
    exact absurd ((hmatch level).mpr h) (List.find?_eq_none.mp hl level (mem_all level))
  | some l => rw [name_injective ((hfound hl).symm.trans h)]

/-- A text names a level if in upper case it is one of the names. -/
theorem upperCase_mem_names_iff {text : String} : upperCase text ∈ names ↔ (ofText? text).isSome := by
  rw [Option.isSome_iff_exists]
  constructor
  · intro h
    obtain ⟨level, -, hname⟩ := List.mem_map.mp h
    exact ⟨level, ofText?_eq_some_iff.mpr hname.symm⟩
  · rintro ⟨level, h⟩
    exact ofText?_eq_some_iff.mp h ▸ mem_names level

end LogLevel

open LogLevel (names upperCase)

/-! ### A level as its name and its place -/

/-- A level as it is held: by its name and, for comparisons, by the place of that among all names. -/
structure HeldLevel where
  /-- The name. -/
  name : String
  /-- The place. -/
  place : Nat
deriving DecidableEq, Repr

namespace HeldLevel

/-- Holds the level that a text names. -/
def set (text : String) : Except LevelError HeldLevel :=
  if upperCase text ∈ names then .ok ⟨upperCase text, names.idxOf (upperCase text)⟩
  else .error (.unknown text)

/-- Whether messages at the level that a text names are at or above the one held. -/
def admits (h : HeldLevel) (text : String) : Except LevelError Bool :=
  match names.idxOf? (upperCase text) with
  | none => .error (.incomparable text)
  | some place => .ok (decide (h.place ≤ place))

/-- A level, held. -/
def ofLevel (level : LogLevel) : HeldLevel := ⟨level.name, level.rank⟩

/-- What a text sets is the level that it names. -/
theorem set_eq (text : String) :
    set text = match LogLevel.ofText? text with
      | some level => .ok (ofLevel level)
      | none => .error (.unknown text) := by
  unfold set
  cases h : LogLevel.ofText? text with
  | none => rw [if_neg (by simp [LogLevel.upperCase_mem_names_iff, h])]
  | some level =>
    rw [if_pos (by simp [LogLevel.upperCase_mem_names_iff, h]), LogLevel.ofText?_eq_some_iff.mp h,
      LogLevel.idxOf_name]
    rfl

/-- A level that is held admits the messages that a logger of that level writes. -/
theorem admits_ofLevel (l : Logger) (text : String) : (ofLevel l.level).admits text = l.enabledText text := by
  unfold admits Logger.enabledText
  cases h : LogLevel.ofText? text with
  | none => rw [List.idxOf?_eq_none_iff.mpr (by simp [LogLevel.upperCase_mem_names_iff, h])]
  | some level =>
    rw [LogLevel.ofText?_eq_some_iff.mp h, LogLevel.idxOf?_name]
    rfl

end HeldLevel

/-! ### Calls -/

namespace Logger

/-- A message, and the reading of the clock when it is logged. -/
structure Message where
  /-- The clock. -/
  now : Float
  /-- How grave it is. -/
  level : LogLevel
  /-- What it says. -/
  text : String

/-- A call of a logger. -/
inductive Call where
  /-- The level is to be the one that a text names. -/
  | setLevel (text : String)
  /-- It is asked whether messages at the level that a text names are written. -/
  | asks (text : String)
  /-- A message is logged at the level that a text names. -/
  | logs (now : Float) (level message : String)
  /-- A message is logged at a level. -/
  | tells (now : Float) (level : LogLevel) (message : String)
  /-- All settings are logged, each at its own reading of the clock. -/
  | settings (now : Float) (entries : List (Float × String × String))

/-- What a call comes to. -/
structure Reply where
  /-- The logger after it. -/
  logger : Logger
  /-- What is written. -/
  written : String
  /-- The answer, if one was asked for, or why the call is refused. -/
  answer : Except LevelError (Option Bool)

/-- Makes a call. -/
def reply (l : Logger) : Call → Reply
  | .setLevel text =>
    match l.setLevel text with
    | .ok l' => ⟨l', "", .ok none⟩
    | .error e => ⟨l, "", .error e⟩
  | .asks text => ⟨l, "", (l.enabledText text).map some⟩
  | .logs now level message =>
    match l.logText now level message with
    | .ok text => ⟨l, text, .ok none⟩
    | .error e => ⟨l, "", .error e⟩
  | .tells now level message => ⟨l, l.log now level message, .ok none⟩
  | .settings now entries => ⟨l, l.logEntries now entries, .ok none⟩

/-- The logger after calls. -/
def after (l : Logger) : List Call → Logger
  | [] => l
  | c :: cs => (l.reply c).logger.after cs

/-- What calls write, one after the other. -/
def written (l : Logger) : List Call → String
  | [] => ""
  | c :: cs => (l.reply c).written ++ (l.reply c).logger.written cs

namespace Call

/-- Why a call is refused, if it is: a text in it names no level. -/
def refusal? : Call → Option LevelError
  | .setLevel text => if upperCase text ∈ names then none else some (.unknown text)
  | .asks text => if upperCase text ∈ names then none else some (.incomparable text)
  | .logs _ level _ => if upperCase level ∈ names then none else some (.incomparable level)
  | .tells _ _ _ => none
  | .settings _ _ => none

/-- The level that a call sets. -/
def newLevel? : Call → Option LogLevel
  | .setLevel text => LogLevel.ofText? text
  | _ => none

/-- The messages of a call, in their order. -/
def messages : Call → List Message
  | .setLevel _ => []
  | .asks _ => []
  | .logs now level message => (LogLevel.ofText? level).toList.map fun level => ⟨now, level, message⟩
  | .tells now level message => [⟨now, level, message⟩]
  | .settings now entries =>
    ⟨now, .debug, "Configuration:"⟩ :: entries.map fun (now, key, value) =>
      ⟨now, .debug, "  " ++ key ++ ": " ++ value⟩

end Call

/-- What is held of a level after a call, which may be refused. -/
def heldAfter (held : HeldLevel) : Call → HeldLevel
  | .setLevel text =>
    match HeldLevel.set text with
    | .ok held' => held'
    | .error _ => held
  | _ => held

/-- The level that was set last by calls, or else the first one. -/
def latestLevel (first : LogLevel) (calls : List Call) : LogLevel :=
  (calls.filterMap Call.newLevel?).getLast?.getD first

/-- The lines for messages at or above a level. -/
def linesFrom (l : Logger) (least : LogLevel) (messages : List Message) : List String :=
  (messages.filter fun m => least.rank ≤ m.level.rank).map fun m => l.line m.now m.level m.text

/-- The lines for the messages of calls, each at or above the level that was set last before it. -/
def lines (l : Logger) (calls : List Call) : List String :=
  (List.range calls.length).flatMap fun k =>
    l.linesFrom (latestLevel l.level (calls.take k)) (calls[k]?.toList.flatMap Call.messages)

/-! ### One call -/

/-- A call changes the level, if anything. -/
theorem logger_reply (l : Logger) (c : Call) :
    (l.reply c).logger = { l with level := c.newLevel?.getD l.level } := by
  cases c with
  | setLevel text => cases h : LogLevel.ofText? text <;> simp [reply, setLevel, Call.newLevel?, h]
  | logs now level message => cases h : LogLevel.ofText? level <;> simp [reply, logText, Call.newLevel?, h]
  | _ => rfl

/-- A call is refused if a text in it names no level. -/
theorem answer_reply_eq_error_iff (l : Logger) (c : Call) (e : LevelError) :
    (l.reply c).answer = .error e ↔ c.refusal? = some e := by
  cases c with
  | setLevel text =>
    cases h : LogLevel.ofText? text <;>
      simp [reply, setLevel, Call.refusal?, LogLevel.upperCase_mem_names_iff, h]
  | asks text =>
    cases h : LogLevel.ofText? text <;>
      simp [reply, enabledText, Except.map, Call.refusal?, LogLevel.upperCase_mem_names_iff, h]
  | logs now level message =>
    cases h : LogLevel.ofText? level <;>
      simp [reply, logText, Call.refusal?, LogLevel.upperCase_mem_names_iff, h]
  | tells now level message => simp [reply, Call.refusal?]
  | settings now entries => simp [reply, Call.refusal?]

/-- A call that is refused sets no level and has no messages. -/
theorem silent_of_refused {c : Call} {e : LevelError} (h : c.refusal? = some e) :
    c.newLevel? = none ∧ c.messages = [] := by
  cases c with
  | setLevel text =>
    cases hlevel : LogLevel.ofText? text <;>
      simp_all [Call.refusal?, Call.newLevel?, Call.messages, LogLevel.upperCase_mem_names_iff]
  | asks text => exact ⟨rfl, rfl⟩
  | logs now level message =>
    cases hlevel : LogLevel.ofText? level <;>
      simp_all [Call.refusal?, Call.newLevel?, Call.messages, LogLevel.upperCase_mem_names_iff]
  | tells now level message => cases h
  | settings now entries => cases h

theorem join_linesFrom_cons (l : Logger) (least : LogLevel) (m : Message) (ms : List Message) :
    String.join (l.linesFrom least (m :: ms)) =
      (if least.rank ≤ m.level.rank then l.line m.now m.level m.text else "") ++
        String.join (l.linesFrom least ms) := by
  unfold linesFrom
  by_cases h : least.rank ≤ m.level.rank <;> simp [h]

/-- What a logger writes for messages, one after the other. -/
theorem join_log (l : Logger) (ms : List Message) :
    String.join (ms.map fun m => l.log m.now m.level m.text) = String.join (l.linesFrom l.level ms) := by
  induction ms with
  | nil => rfl
  | cons m ms ih =>
    rw [List.map_cons, String.join_cons, ih, join_linesFrom_cons]
    simp [log, enabled]

/-- A call writes a line for each of its messages at or above the level. -/
theorem written_reply (l : Logger) (c : Call) :
    (l.reply c).written = String.join (l.linesFrom l.level c.messages) := by
  rw [← join_log]
  cases c with
  | setLevel text => cases h : LogLevel.ofText? text <;> simp [reply, setLevel, Call.messages, h]
  | asks text => rfl
  | logs now level message => cases h : LogLevel.ofText? level <;> simp [reply, logText, Call.messages, h]
  | tells now level message => simp [reply, Call.messages]
  | settings now entries => simp [reply, Call.messages, logEntries, Function.comp_def]

/-- A call that is refused changes nothing and writes nothing. -/
theorem reply_of_refused (l : Logger) {c : Call} {e : LevelError} (h : c.refusal? = some e) :
    (l.reply c).logger = l ∧ (l.reply c).written = "" := by
  obtain ⟨hlevel, hmessages⟩ := silent_of_refused h
  rw [logger_reply, written_reply, hlevel, hmessages]
  exact ⟨rfl, rfl⟩

/-! ### Any number of calls -/

theorem latestLevel_cons (first : LogLevel) (c : Call) (cs : List Call) :
    latestLevel first (c :: cs) = latestLevel (c.newLevel?.getD first) cs := by
  unfold latestLevel
  cases h : c.newLevel? with
  | none => simp [h]
  | some level =>
    rw [List.filterMap_cons_some h, List.getLast?_cons]
    rfl

/-- The level is the one that was set last. -/
theorem level_after (l : Logger) (calls : List Call) : (l.after calls).level = latestLevel l.level calls := by
  induction calls generalizing l with
  | nil => rfl
  | cons c cs ih => rw [after, ih, logger_reply, latestLevel_cons]

/-- The level has no part in what a line looks like. -/
theorem linesFrom_withLevel (l : Logger) (level least : LogLevel) (ms : List Message) :
    ({ l with level } : Logger).linesFrom least ms = l.linesFrom least ms := rfl

theorem lines_cons (l : Logger) (c : Call) (cs : List Call) :
    l.lines (c :: cs) = l.linesFrom l.level c.messages ++ (l.reply c).logger.lines cs := by
  unfold lines
  rw [List.length_cons, List.range_succ_eq_map, List.flatMap_cons, List.flatMap_map, logger_reply]
  simp only [List.take_succ_cons, List.getElem?_cons_succ, latestLevel_cons, linesFrom_withLevel]
  simp [latestLevel]

/-- Any calls write the lines for their messages. -/
theorem written_eq (l : Logger) (calls : List Call) : l.written calls = String.join (l.lines calls) := by
  induction calls generalizing l with
  | nil => rfl
  | cons c cs ih => rw [written, ih, written_reply, lines_cons, String.join_append]

/-- From a higher level on there are fewer lines. -/
theorem linesFrom_sublist (l : Logger) {lower higher : LogLevel} (h : lower.rank ≤ higher.rank)
    (ms : List Message) : (l.linesFrom higher ms).Sublist (l.linesFrom lower ms) := by
  have hfilter : (ms.filter fun m => higher.rank ≤ m.level.rank) =
      (ms.filter fun m => lower.rank ≤ m.level.rank).filter fun m => higher.rank ≤ m.level.rank := by
    rw [List.filter_filter]
    refine List.filter_congr fun m _ => ?_
    by_cases hm : higher.rank ≤ m.level.rank
    · simp [hm, Nat.le_trans h hm]
    · simp [hm]
  unfold linesFrom
  rw [hfilter]
  exact List.filter_sublist.map _

/-- A logger that starts with a higher level leaves lines out and adds none. -/
theorem lines_sublist (l : Logger) {higher : LogLevel} (h : l.level.rank ≤ higher.rank) (calls : List Call) :
    (({ l with level := higher } : Logger).lines calls).Sublist (l.lines calls) := by
  induction calls generalizing l with
  | nil => exact .slnil
  | cons c cs ih =>
    rw [lines_cons, lines_cons, linesFrom_withLevel, logger_reply, logger_reply]
    refine (l.linesFrom_sublist h c.messages).append ?_
    -- A level that the call sets is the same for both.
    cases hlevel : c.newLevel? with
    | none => exact ih l h
    | some level => exact .refl _

theorem heldAfter_ofLevel (level : LogLevel) (c : Call) :
    heldAfter (.ofLevel level) c = .ofLevel (c.newLevel?.getD level) := by
  cases c with
  | setLevel text =>
    rw [heldAfter, HeldLevel.set_eq, Call.newLevel?]
    cases LogLevel.ofText? text <;> rfl
  | _ => rfl

/-- After any calls the level that is held is that of the logger. -/
theorem held_after (l : Logger) (calls : List Call) :
    calls.foldl heldAfter (.ofLevel l.level) = .ofLevel (l.after calls).level := by
  induction calls generalizing l with
  | nil => rfl
  | cons c cs ih => rw [List.foldl_cons, after, ← ih, heldAfter_ofLevel, logger_reply]

theorem heldAfter_of_refused {c : Call} {e : LevelError} (h : c.refusal? = some e) (held : HeldLevel) :
    heldAfter held c = held := by
  cases c with
  | setLevel text =>
    have hnone : LogLevel.ofText? text = none := (silent_of_refused h).1
    rw [heldAfter, HeldLevel.set_eq, hnone]
  | _ => rfl

/-! ### From the start on -/

/-- A logger is made at the level that a text names. -/
theorem create_eq_ok_iff {name first : String} {useColours terminal timestamps : Bool} {start : Float}
    {l : Logger} :
    create name first useColours terminal timestamps start = .ok l ↔
      LogLevel.ofText? first = some l.level ∧
        l = { name, level := l.level, colours := useColours && terminal, timestamps, start } := by
  unfold create
  cases h : LogLevel.ofText? first with
  | none => simp
  | some level =>
    constructor
    · intro hl
      cases hl
      exact ⟨rfl, rfl⟩
    · rintro ⟨hlevel, hl⟩
      cases hlevel
      rw [hl]

/-- **What a logger writes, by any calls.** A call is refused exactly if a text in it names no level, and then
it writes nothing and changes nothing. At any time the place that is held is that of the name that is held,
both are those of the logger's level, and messages are compared with it as the logger does. What is written is
one line for each message at or above the level that was set last, or else given to the logger when it was
made. So a logger of a higher level leaves lines out, and adds none. -/
theorem written_of_calls {name first : String} {useColours terminal timestamps : Bool} {start : Float}
    {l : Logger} (h : create name first useColours terminal timestamps start = .ok l) (calls : List Call) :
    (∀ k c e, ((l.after (calls.take k)).reply c).answer = .error e ↔ c.refusal? = some e) ∧
    (∀ k c e, c.refusal? = some e → ((l.after (calls.take k)).reply c).logger = l.after (calls.take k) ∧
      ((l.after (calls.take k)).reply c).written = "" ∧ ∀ held, heldAfter held c = held) ∧
    (∃ held, HeldLevel.set first = .ok held ∧ ∀ k,
      let held' := (calls.take k).foldl heldAfter held
      held'.place = names.idxOf held'.name ∧ held'.name = (l.after (calls.take k)).level.name ∧
        ∀ text, held'.admits text = (l.after (calls.take k)).enabledText text) ∧
    (l.after calls).level = latestLevel l.level calls ∧
    l.written calls = String.join (l.lines calls) ∧
    ∀ first' l', create name first' useColours terminal timestamps start = .ok l' →
      l.level.rank ≤ l'.level.rank → (l'.lines calls).Sublist (l.lines calls) := by
  obtain ⟨hfirst, hl⟩ := create_eq_ok_iff.mp h
  refine ⟨fun k => answer_reply_eq_error_iff _, fun k c e hc => ?refused,
    ⟨.ofLevel l.level, ?made, fun k => ?held⟩, level_after l calls, written_eq l calls,
    fun first' l' h' hle => ?fewer⟩
  case refused =>
    obtain ⟨hsame, hsilent⟩ := reply_of_refused (l.after (calls.take k)) hc
    exact ⟨hsame, hsilent, heldAfter_of_refused hc⟩
  case made => rw [HeldLevel.set_eq, hfirst]
  case held =>
    intro held'
    have hheld : held' = .ofLevel (l.after (calls.take k)).level := held_after l (calls.take k)
    rw [hheld]
    exact ⟨(LogLevel.idxOf_name _).symm, rfl, HeldLevel.admits_ofLevel _⟩
  case fewer =>
    have hsame : l' = { l with level := l'.level } := by
      rw [hl]
      exact (create_eq_ok_iff.mp h').2
    rw [hsame]
    exact lines_sublist l hle calls

/-- A history in which two calls are refused and the level goes down. -/
def mixedCalls : List Call :=
  [.tells 0.0 .info "hidden", .setLevel "loud", .tells 0.0 .error "shown", .setLevel "debug",
    .logs 0.0 "info" "heard", .logs 0.0 "verbose" "refused", .settings 0.0 [(0.5, "scale", "20")], .asks "DEBUG"]

/-- What two loggers of different levels write of the same history. -/
theorem written_of_calls_mixed :
    ∃ l l' : Logger,
      create "chipjax" "warning" false false false 0.0 = .ok l ∧
      create "chipjax" "CRITICAL" false false false 0.0 = .ok l' ∧
      l.written mixedCalls = "[   ERROR][chipjax] shown\n[    INFO][chipjax] heard\n" ++
        "[   DEBUG][chipjax] Configuration:\n[   DEBUG][chipjax]   scale: 20\n" ∧
      (l'.lines mixedCalls).Sublist (l.lines mixedCalls) := by
  have hmade (level : LogLevel) : create "chipjax" level.name false false false 0.0 =
      .ok { name := "chipjax", level, colours := false, timestamps := false, start := 0.0 } := by
    rw [create_eq_ok_iff]
    cases level <;> exact ⟨by decide, rfl⟩
  have hl : create "chipjax" "warning" false false false 0.0 =
      create "chipjax" "WARNING" false false false 0.0 := rfl
  obtain ⟨-, -, -, -, hwritten, hfewer⟩ := written_of_calls (hl.trans (hmade .warning)) mixedCalls
  refine ⟨_, _, hl.trans (hmade .warning), hmade .critical, ?_, hfewer _ _ (hmade .critical) (by decide)⟩
  rw [hwritten]
  decide +kernel

end Logger

end Chip8
