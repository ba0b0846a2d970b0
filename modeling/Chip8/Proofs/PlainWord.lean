import Chip8.Yaml.Document
import Mathlib.Data.Bool.AllAny

/-!
# Texts that are one word

The text of an override is mostly a single word: letters and digits, perhaps behind a minus. Such a text is one
token, the one token is the document, and the document is the scalar that the word looks like (`parse_word`). So a
hexadecimal number is read, whatever its length (`parse_negativePower`).
-/

namespace Chip8.Yaml

/-- A character of a word. -/
def InWord (c : Char) : Prop := c.isAlphanum = true ∨ c = '-'

instance : DecidablePred InWord := fun _ => inferInstanceAs (Decidable (_ ∨ _))

/-- The characters of a word: a letter, a digit or a minus, and behind a minus more letters and digits. -/
structure IsWord (first : Char) (rest : List Char) : Prop where
  /-- How it starts. -/
  starts : InWord first
  /-- How it goes on. -/
  goesOn : ∀ c ∈ rest, c.isAlphanum = true
  /-- A minus alone is no word. -/
  more : first = '-' → rest ≠ []

namespace InWord

variable {c : Char}

theorem ne (hc : InWord c) {d : Char} (hd : ¬ InWord d) : c ≠ d := fun h => hd (h ▸ hc)

theorem isBlank (hc : InWord c) : isBlank c = false := by
  simp [Yaml.isBlank, hc.ne (d := ' ') (by decide), hc.ne (d := '\t') (by decide)]

theorem isBreak (hc : InWord c) : isBreak c = false := by
  simp [Yaml.isBreak, hc.ne (d := '\n') (by decide), hc.ne (d := '\r') (by decide),
    hc.ne (d := '\x85') (by decide), hc.ne (d := '\u2028') (by decide), hc.ne (d := '\u2029') (by decide)]

theorem endsWord (hc : InWord c) : endsWord c = false := by
  simp [Yaml.endsWord, endsLine, hc.isBlank, hc.isBreak, hc.ne (d := endMark) (by decide)]

theorem allowed (hc : InWord c) : allowed c = true := by
  obtain h | rfl := hc
  · have hcode : (65 ≤ c.toNat ∧ c.toNat ≤ 90) ∨ (97 ≤ c.toNat ∧ c.toNat ≤ 122) ∨
        48 ≤ c.toNat ∧ c.toNat ≤ 57 := by
      change (decide (65 ≤ c.val ∧ c.val ≤ 90) || (decide (97 ≤ c.val) && decide (c.val ≤ 122)) ||
        (decide (48 ≤ c.val) && decide (c.val ≤ 57))) = true at h
      simpa [UInt32.le_iff_toNat_le, or_assoc] using h
    have hprinted : 0x20 ≤ c.toNat ∧ c.toNat ≤ 0x7E := by omega
    simp [Yaml.allowed, hprinted]
  · decide

end InWord

theorem IsWord.inWord {first : Char} {rest : List Char} (hw : IsWord first rest) :
    ∀ c ∈ first :: rest, InWord c
  | _, .head _ => hw.starts
  | c, .tail _ hc => .inl (hw.goesOn c hc)

theorem bind_of_ok {ε α β : Type} {x : Except ε α} {a : α} (h : x = .ok a) (f : α → Except ε β) :
    (x >>= f) = f a := by
  rw [h]
  rfl

/-! ### The scanner -/

theorem plainRun_word {w : List Char} (hw : ∀ c ∈ w, InWord c) (n : Nat) :
    plainRun false n w = .ok (n + w.length) := by
  induction w generalizing n with
  | nil => rfl
  | cons c w ih =>
    obtain ⟨hc, hw⟩ := List.forall_mem_cons.mp hw
    have hcolon : (c == ':') = false := beq_eq_false_iff_ne.mpr (hc.ne (by decide))
    simp only [plainRun, hc.endsWord, hcolon, Bool.false_and, Bool.false_or, Bool.false_eq_true, if_false, ih hw,
      List.length_cons]
    rw [Nat.add_assoc, Nat.add_comm 1]

variable {first : Char} {rest : List Char}

/-- A word is no document marker. -/
theorem marker_word (hw : IsWord first rest) (mark : Char) (hmark : mark.isAlphanum = false) :
    (Cursor.start (first :: rest)).marker mark = false := by
  have htake : (Cursor.start (first :: rest)).take 3 ≠ [mark, mark, mark] := by
    intro h
    cases rest with
    | nil => simp [Cursor.start, Cursor.take] at h
    | cons c rest =>
      simp only [Cursor.start, Cursor.take, List.take_succ_cons, List.cons.injEq] at h
      obtain ⟨-, rfl, -⟩ := h
      exact Bool.false_ne_true (hmark.symm.trans (hw.goesOn c List.mem_cons_self))
  simp [Cursor.marker, htake]

theorem atMarker_word (hw : IsWord first rest) : (Cursor.start (first :: rest)).atMarker = false := by
  simp [Cursor.atMarker, marker_word hw '-' rfl, marker_word hw '.' rfl]

/-- Where a word ends, if nothing is behind it. -/
def behind (n : Nat) : Cursor := ⟨[], n, 0, n⟩

theorem skip_word (w : List Char) : (Cursor.start w).skip w.length = behind w.length := by
  simp [Cursor.start, Cursor.skip, behind]

/-- A word is scanned as a whole. -/
theorem plainScalar_word (hw : IsWord first rest) :
    plainScalar false (-1) (.start (first :: rest)) =
      .ok ⟨first :: rest, behind (rest.length + 1), false⟩ := by
  have hnumber : first ≠ '#' := hw.starts.ne (by decide)
  have hrun : plainRun false 0 (first :: rest) = .ok (rest.length + 1) := by
    rw [plainRun_word hw.inWord, List.length_cons, Nat.zero_add]
  have hgap : readGap 0 (rest.length + 1) (behind (rest.length + 1)) Gap.none =
      .ok (Gap.none, behind (rest.length + 1)) := by
    simp [readGap, behind, Cursor.peek, endMark, isBlank, isBreak]
  have hend : plainWords false 0 (rest.length + 1) (behind (rest.length + 1)) (first :: rest) Gap.none =
      .ok ⟨first :: rest, behind (rest.length + 1), false⟩ := by
    simp [plainWords, behind, Cursor.atMarker, Cursor.peek, endMark, plainRun, bind, Except.bind, pure,
      Except.pure, Gap.broke, Gap.none]
  have hskip : (Cursor.start (first :: rest)).skip (rest.length + 1) = behind (rest.length + 1) :=
    skip_word (first :: rest)
  have htake : (Cursor.start (first :: rest)).take (rest.length + 1) = first :: rest := by
    simp [Cursor.start, Cursor.take]
  have hcolumn : decide (((behind (rest.length + 1)).column : Int) < 0) = false :=
    decide_eq_false (Int.not_lt.mpr (Int.natCast_nonneg _))
  have hpeek : (Cursor.start (first :: rest)).peek = first := rfl
  have hrest : (Cursor.start (first :: rest)).rest = first :: rest := rfl
  unfold plainScalar plainWords
  simp only [show (-1 : Int) + 1 = 0 from rfl, atMarker_word hw, hpeek, hrest, Bool.false_or,
    beq_eq_false_iff_ne.mpr hnumber, Bool.false_eq_true, if_false, hrun, bind, Except.bind, Nat.add_one_ne_zero,
    hskip, htake, List.length_cons, hgap, hcolumn, Bool.and_false]
  exact hend

/-! ### The lexer -/

/-- At a word there is nothing to move over. -/
theorem toNextToken_word (hw : IsWord first rest) (fuel : Nat) :
    (Lexer.start (first :: rest)).toNextToken (fuel + 1) = .start (first :: rest) := by
  have hmark : first ≠ orderMark := hw.starts.ne (by decide)
  have hblank : first ≠ ' ' := hw.starts.ne (by decide)
  have hnumber : first ≠ '#' := hw.starts.ne (by decide)
  simp [Lexer.toNextToken, Lexer.start, Cursor.start, Cursor.peek, hmark, Cursor.skipWhile, Cursor.count,
    Lexer.inFlow, hblank, Cursor.skip, hnumber, hw.starts.isBreak]

/-- Behind a minus the word goes on. -/
theorem endsWord_behind_minus (hw : IsWord first rest) (hminus : first = '-') :
    endsWord ((Cursor.start (first :: rest)).peekAt 1) = false := by
  cases rest with
  | nil => exact absurd rfl (hw.more hminus)
  | cons c rest => exact InWord.endsWord (.inl (hw.goesOn c List.mem_cons_self))

/-- A plain scalar starts at a word. -/
theorem startsPlain_word (hw : IsWord first rest) : (Lexer.start (first :: rest)).startsPlain = true := by
  have hpeek : (Lexer.start (first :: rest)).cursor.peek = first := rfl
  have hcursor : (Lexer.start (first :: rest)).cursor = .start (first :: rest) := rfl
  unfold Lexer.startsPlain
  rw [hpeek, hcursor]
  dsimp only
  by_cases hminus : first = '-'
  · have hends := endsWord_behind_minus hw hminus
    have hblank : isBlank ((Cursor.start (first :: rest)).peekAt 1) = false :=
      (Bool.or_eq_false_iff.mp hends).1
    rw [hblank, hminus]
    rfl
  · have hindicator : Lexer.indicators.contains first = false := by
      have hother : ∀ d ∈ Lexer.indicators, InWord d → d = '-' := List.all_iff_forall_prop.mp (by decide)
      rw [List.contains_eq_mem, decide_eq_false_iff_not]
      exact fun hmem => hminus (hother first hmem hw.starts)
    rw [hw.starts.endsWord, hindicator]
    rfl

/-- At the start of the text a key may have started. -/
def firstKey : PossibleKey := ⟨0, 0, 0, 0, false⟩

/-- The lexer behind a word of `n` characters, where a key may have started before it. -/
def behindWord (n : Nat) (key : Option PossibleKey) (t : Token) : Lexer :=
  ⟨behind n, [key], -1, [], false, #[t]⟩

theorem plain_word (hw : IsWord first rest) :
    (Lexer.start (first :: rest)).plain =
      .ok (behindWord (rest.length + 1) (some firstKey) (.scalar (String.ofList (first :: rest)) true)) := by
  have hsaved : (Lexer.start (first :: rest)).saveKey =
      .ok ⟨.start (first :: rest), [some firstKey], -1, [], true, #[]⟩ := rfl
  unfold Lexer.plain
  rw [bind_of_ok hsaved]
  exact bind_of_ok (plainScalar_word hw) _

/-- At a word, the word is the token. -/
theorem token_word (hw : IsWord first rest) :
    (Lexer.start (first :: rest)).token =
      .ok (behindWord (rest.length + 1) (some firstKey) (.scalar (String.ofList (first :: rest)) true)) := by
  have hpeek : (Cursor.start (first :: rest)).peek = first := rfl
  have hcursor : (Lexer.start (first :: rest)).cursor = .start (first :: rest) := rfl
  have hne {d : Char} (hd : ¬ InWord d) : first ≠ d := hw.starts.ne hd
  have hentry : ¬ (first = '-' ∧ endsWord ((Cursor.start (first :: rest)).peekAt 1) = true) := by
    rintro ⟨hminus, hends⟩
    exact Bool.false_ne_true ((endsWord_behind_minus hw hminus).symm.trans hends)
  unfold Lexer.token
  simp only [hcursor, hpeek, marker_word hw '-' rfl, marker_word hw '.' rfl,
    hne (d := '%') (by decide), hne (d := '[') (by decide), hne (d := '\x7b') (by decide),
    hne (d := ']') (by decide), hne (d := '\x7d') (by decide), hne (d := ',') (by decide),
    hne (d := '?') (by decide), hne (d := ':') (by decide), hne (d := '*') (by decide),
    hne (d := '&') (by decide), hne (d := '!') (by decide), hne (d := '|') (by decide),
    hne (d := '>') (by decide), hne (d := '\'') (by decide), hne (d := '"') (by decide),
    Bool.false_eq_true, and_false, false_and, or_self, if_false, hentry, startsPlain_word hw, if_true,
    plain_word hw]

/-- Behind a long word no key can have started before it. -/
theorem dropStale_behind (n : Nat) (t : Token) :
    (behindWord n (some firstKey) t).dropStale =
      .ok (behindWord n (if 1024 < n then none else some firstKey) t) := by
  have hstale : (behindWord n (some firstKey) t).isStale firstKey = decide (1024 < n) := by
    simp [Lexer.isStale, behindWord, behind, firstKey]
  have hkeys : (behindWord n (some firstKey) t).keys = [some firstKey] := rfl
  unfold Lexer.dropStale
  rw [hkeys, List.mapM_cons, List.mapM_nil]
  dsimp only
  rw [hstale]
  by_cases h : 1024 < n
  · simp only [h, decide_true, if_true]
    rfl
  · simp only [h, decide_false, Bool.false_eq_true, if_false]
    rfl

/-- Behind a word there is no more. -/
theorem run_behind (fuel n : Nat) (t : Token) : (behindWord n (some firstKey) t).run (fuel + 1) = .ok #[t] := by
  have hnext : (behindWord n (some firstKey) t).toNextToken 1 = behindWord n (some firstKey) t := by
    simp [Lexer.toNextToken, behindWord, behind, Cursor.peek, endMark, orderMark, Cursor.skipWhile, Cursor.count,
      Cursor.skip, isBreak]
  have hlength : (behindWord n (some firstKey) t).cursor.rest.length + 1 = 1 := rfl
  rw [Lexer.run, hlength, hnext, bind_of_ok (dropStale_behind n t)]
  split <;> rfl

/-- The tokens of a word are the word. -/
theorem tokens_word (hw : IsWord first rest) :
    tokens (String.ofList (first :: rest)) = .ok [.scalar (String.ofList (first :: rest)) true] := by
  have hmark : first ≠ orderMark := hw.starts.ne (by decide)
  have hallowed : (first :: rest).find? (!allowed ·) = none := by
    rw [List.find?_eq_none]
    intro c hc
    simp [(hw.inWord c hc).allowed]
  have hrun : (Lexer.start (first :: rest)).run (rest.length + 3) =
      .ok #[.scalar (String.ofList (first :: rest)) true] := by
    have hnext := toNextToken_word hw (rest.length + 1)
    have hfresh : (Lexer.start (first :: rest)).dropStale = .ok (.start (first :: rest)) := rfl
    rw [Lexer.run, show (Lexer.start (first :: rest)).cursor.rest.length + 1 = rest.length + 1 + 1 from rfl, hnext,
      bind_of_ok hfresh]
    exact (bind_of_ok (token_word hw) _).trans (run_behind (rest.length + 1) (rest.length + 1) _)
  simp only [tokens, String.toList_ofList, List.head?_cons, Option.some.injEq, hmark, if_false, hallowed,
    List.length_cons, hrun]
  rfl

/-! ### The document -/

/-- A document of one plain scalar is a scalar of the kind that it looks like. -/
theorem readDocument_scalar (text : String) :
    (Node.readDocument 8).run ⟨[.scalar text true], [], [], 0, 0⟩ =
      .ok (.scalar (Scalar.kind text) text, ⟨[], [], [], 0, 0⟩) := rfl

theorem ofText_word (hw : IsWord first rest) :
    Node.ofText (String.ofList (first :: rest)) =
      .ok (.scalar (Scalar.kind (String.ofList (first :: rest))) (String.ofList (first :: rest))) := by
  unfold Node.ofText
  rw [bind_of_ok (tokens_word hw)]
  exact bind_of_ok (readDocument_scalar _) _

theorem isContainer_kind (text : String) : (Scalar.kind text).isContainer = false := by
  unfold Scalar.kind
  dsimp only
  repeat' split
  all_goals rfl

/-- A document of one scalar has the value of that scalar. -/
theorem parse_scalar {text : String} {k : Kind} (hk : k.isContainer = false)
    (h : Node.ofText text = .ok (.scalar k text)) : parse text = Scalar.value k text := by
  have hvalue : surveyValue (text.length + 2) (.scalar k text) = (do
      let _ ← (liftM (Scalar.value k text) : Look Value)
      return []) := by
    unfold surveyValue
    simp only [Node.kind, hk]
    rfl
  have hbuild : build (text.length + 2) (.scalar k text) = (liftM (Scalar.value k text) : Look Value) := by
    cases k with
    | set => cases hk
    | _ => rfl
  unfold parse
  rw [bind_of_ok h]
  simp only [hvalue, hbuild]
  cases Scalar.value k text <;> rfl

/-- **A word is the scalar that it looks like.** -/
theorem parse_word (hw : IsWord first rest) :
    parse (String.ofList (first :: rest)) =
      Scalar.value (Scalar.kind (String.ofList (first :: rest))) (String.ofList (first :: rest)) :=
  parse_scalar (isContainer_kind _) (ofText_word hw)

/-! ### Hexadecimal numbers -/

/-- The hexadecimal digits. -/
def hexDigits : List Char := "0123456789abcdefABCDEF".toList

variable {digits : List Char}

/-- A word that starts with a minus is none of some words that do not. -/
theorem contains_minus {words : List String} (hwords : ∀ s ∈ words, s.toList.head? ≠ some '-')
    (cs : List Char) : words.contains (String.ofList ('-' :: cs)) = false := by
  rw [List.contains_eq_mem, decide_eq_false_iff_not]
  intro hmem
  exact hwords _ hmem (by rw [String.toList_ofList, List.head?_cons])

theorem beq_minus {s : String} (hs : s.toList.head? ≠ some '-') (cs : List Char) :
    (String.ofList ('-' :: cs) == s) = false := by
  rw [beq_eq_false_iff_ne]
  rintro rfl
  exact hs (by rw [String.toList_ofList, List.head?_cons])

/-- A hexadecimal number behind a minus looks like an integer. -/
theorem kind_hexadecimal (hdigits : ∀ c ∈ digits, c ∈ hexDigits) (hne : digits ≠ []) :
    Scalar.kind (String.ofList ('-' :: '0' :: 'x' :: digits)) = .integer := by
  have hlower : (String.ofList ('-' :: '0' :: 'x' :: digits)).toLower =
      String.ofList ('-' :: '0' :: 'x' :: digits.map Char.toLower) := by
    change String.map Char.toLower _ = _
    rw [← String.toList_inj, String.toList_map, String.toList_ofList, String.toList_ofList]
    rfl
  have hnull : Scalar.isNull (String.ofList ('-' :: '0' :: 'x' :: digits)) = false := contains_minus (by decide) _
  have htruth : Scalar.truthWord? (String.ofList ('-' :: '0' :: 'x' :: digits)).toLower = none := by
    unfold Scalar.truthWord?
    rw [hlower, contains_minus (by decide), contains_minus (by decide)]
    rfl
  have hall : Scalar.areDigitsIn 16 digits = true := by
    have hdigit : ∀ c ∈ hexDigits, Scalar.isDigitIn 16 c = true := List.all_eq_true.mp (by decide)
    simp only [Scalar.areDigitsIn, Bool.and_eq_true, Bool.not_eq_true', List.isEmpty_eq_false_iff,
      List.all_eq_true]
    exact ⟨hne, fun c hc => hdigit c (hdigits c hc)⟩
  have hinteger : Scalar.isInteger (Scalar.signed ('-' :: '0' :: 'x' :: digits)).2 = true := hall
  unfold Scalar.kind
  simp only [hnull, beq_minus (s := "<<") (by decide), beq_minus (s := "=") (by decide), htruth,
    Option.isSome_none, Bool.and_false, Bool.false_eq_true, if_false, String.toList_ofList, hinteger, if_true]

/-- Nothing is dropped if nothing is to be dropped. -/
theorem dropWhile_isBlank (hdigits : ∀ c ∈ digits, c ∈ hexDigits) :
    digits.dropWhile Text.isBlank = digits := by
  have hblank : ∀ c ∈ hexDigits, Text.isBlank c = false := List.all_iff_forall_prop.mp (by decide)
  cases digits with
  | nil => rfl
  | cons c cs => rw [List.dropWhile_cons_of_neg (by simp [hblank c (hdigits c List.mem_cons_self)])]

/-- The value of a hexadecimal number. -/
theorem integerIn?_hexadecimal (hdigits : ∀ c ∈ digits, c ∈ hexDigits) {n : Nat}
    (hn : Text.digits? 16 digits = some n) : Text.integerIn? 16 digits = some (n : Int) := by
  have htrim : Text.trim digits = digits := by
    have hreverse : ∀ c ∈ digits.reverse, c ∈ hexDigits := fun c hc => hdigits c (List.mem_reverse.mp hc)
    rw [Text.trim, dropWhile_isBlank hdigits, dropWhile_isBlank hreverse, List.reverse_reverse]
  have hbase : Text.behindBase 16 digits = digits := by
    have hletter : ∀ c ∈ hexDigits, (Text.baseLetters 16).contains c = false :=
      List.all_iff_forall_prop.mp (by decide)
    unfold Text.behindBase
    split
    case h_1 c rest =>
      rw [hletter c (hdigits c (by simp))]
      rfl
    case h_2 => rfl
  have hsign : ∀ c ∈ hexDigits, c ≠ '-' ∧ c ≠ '+' := List.all_iff_forall_prop.mp (by decide)
  unfold Text.integerIn?
  simp only [htrim]
  split
  case h_1 => exact absurd rfl (hsign _ (hdigits _ List.mem_cons_self)).1
  case h_2 => exact absurd rfl (hsign _ (hdigits _ List.mem_cons_self)).2
  case h_3 =>
    rw [hbase, hn]
    rfl

/-- **A hexadecimal number behind a minus is read**, whatever its length. -/
theorem parse_hexadecimal (hdigits : ∀ c ∈ digits, c ∈ hexDigits) (hne : digits ≠ []) {n : Nat}
    (hn : Text.digits? 16 digits = some n) :
    parse (String.ofList ('-' :: '0' :: 'x' :: digits)) = .ok (.int (-n)) := by
  have hword : IsWord '-' ('0' :: 'x' :: digits) := by
    have hletter : ∀ c ∈ hexDigits, c.isAlphanum = true := List.all_eq_true.mp (by decide)
    refine ⟨.inr rfl, fun c hc => ?_, fun _ => nofun⟩
    obtain _ | ⟨_, _ | ⟨_, hc⟩⟩ := hc
    · rfl
    · rfl
    · exact hletter c (hdigits c hc)
  have hfilter : ('-' :: '0' :: 'x' :: digits).filter (· != '_') = '-' :: '0' :: 'x' :: digits := by
    have hother : ∀ c ∈ hexDigits, (c != '_') = true := List.all_eq_true.mp (by decide)
    have hself := List.filter_eq_self.mpr fun c hc => hother c (hdigits c hc)
    exact congrArg (['-', '0', 'x'] ++ ·) hself
  have hmagnitude : Scalar.magnitude ('0' :: 'x' :: digits) = .ok n := by
    rw [Scalar.magnitude, Scalar.integerIn, integerIn?_hexadecimal hdigits hn]
    rfl
  have hinteger : Scalar.integer (String.ofList ('-' :: '0' :: 'x' :: digits)) = .ok (-n) := by
    unfold Scalar.integer
    rw [String.toList_ofList, hfilter]
    exact bind_of_ok hmagnitude _
  rw [parse_word hword, kind_hexadecimal hdigits hne, Scalar.value, hinteger]
  rfl

theorem natural?_zeros (m n : Nat) : Text.natural? 16 m (List.replicate n '0') = some (m * Nat.pow 16 n) := by
  induction n generalizing m with
  | zero => simp [Text.natural?]
  | succ n ih =>
    have hdigit : Text.digitIn? 16 '0' = some 0 := by decide
    have hpow : Nat.pow 16 (n + 1) = Nat.pow 16 n * 16 := rfl
    rw [List.replicate_succ, Text.natural?, hdigit, Option.bind_some, ih, Nat.add_zero, hpow, Nat.mul_comm 16 m,
      Nat.mul_assoc, Nat.mul_comm 16]
    -- A zero is no underscore in front of a digit.
    simp

/-- A one and zeros, behind a minus, are a negative power. -/
theorem parse_negativePower (n : Nat) :
    parse (String.ofList ('-' :: '0' :: 'x' :: '1' :: List.replicate n '0')) =
      .ok (.int (-(Nat.pow 16 n : Nat))) := by
  refine parse_hexadecimal (fun c hc => ?_) (List.cons_ne_nil _ _) ?_
  · obtain _ | ⟨_, hc⟩ := hc
    · decide
    · rw [List.eq_of_mem_replicate hc]
      decide
  · have hdigit : Text.digitIn? 16 '1' = some 1 := by decide
    rw [Text.digits?, hdigit, Option.bind_some, natural?_zeros, Nat.one_mul]

end Chip8.Yaml
