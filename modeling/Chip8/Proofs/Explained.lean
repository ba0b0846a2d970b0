import Chip8.CommandLine.Program

/-!
# Explained refusals

What refuses a configuration says why: whether a tree cannot be made of a value, an entry does not
fit, a reference leads nowhere or a setting fails its check, the error is one that the command line
reports, and there is a report of it. This is said of every function that may refuse, from the
single checks to the configuration of a draft, and carried on from each to those that call it by the
rules for computations in order (`Explains.bind`, `Explains.map`, `Explains.check`).

Not in this list is the reading of documents, which may fail without a report.
-/

namespace Chip8.Config

open CommandLine (isReported)

/-- An error is reported by the command line, and there is a report of it. -/
def Error.Explained (e : Error) : Prop := isReported e = true ∧ ∃ report, e.message? = some report

/-- Whatever error comes out of a computation is explained. -/
def Explains {α : Type} (x : Except Error α) : Prop := ∀ e, x = .error e → e.Explained

namespace Explains

variable {α β : Type}

theorem ok (a : α) : Explains (.ok a) := fun _ h => by cases h

theorem error {e : Error} (h : e.Explained) : Explains (.error e : Except Error α) :=
  fun _ he => Except.error.inj he ▸ h

theorem bind {x : Except Error α} {f : α → Except Error β} (hx : Explains x)
    (hf : ∀ a, Explains (f a)) : Explains (x >>= f) := by
  cases x with
  | error e => exact error (hx e rfl)
  | ok a => exact hf a

theorem map {x : Except Error α} {f : α → β} (hx : Explains x) : Explains (x.map f) := by
  cases x with
  | error e => exact error (hx e rfl)
  | ok a => exact ok (f a)

/-- A check in front of the rest. -/
theorem check {c : Prop} [Decidable c] {e : Error} {f : Unit → Except Error α} (he : e.Explained)
    (hf : Explains (f ())) : Explains (if c then .error e >>= f else f ()) := by
  split
  · exact error he
  · exact hf

end Explains

/-! ### Trees -/

theorem explains_acceptKey (map : Path) (present : List Value) (key : Value) :
    Explains (acceptKey map present key) := by
  unfold acceptKey
  split
  · exact .error ⟨rfl, _, rfl⟩
  · exact .error ⟨rfl, _, rfl⟩
  · split
    · exact .error ⟨rfl, _, rfl⟩
    · exact .ok ()

theorem explains_acceptReferences (path : Path) (s : String) :
    Explains (acceptReferences path s) := by
  unfold acceptReferences
  split
  · split
    · exact .ok ()
    · exact .error ⟨rfl, _, rfl⟩
  · exact .ok ()

theorem explains_acceptText (path : Path) (s : String) : Explains (acceptText path s) := by
  unfold acceptText
  split
  · exact .ok _
  · exact (explains_acceptReferences path s).map

mutual

/-- A value of which no tree can be made is refused with an explanation. -/
theorem explains_accept (path : Path) (v : Value) : Explains (accept path v) := by
  cases v with
  | text s => simpa only [accept] using explains_acceptText path s
  | foreign kind => simpa only [accept] using .error ⟨rfl, _, rfl⟩
  | list items => simpa only [accept] using (explains_acceptItems path 0 items).map
  | pair a b =>
    simp only [accept]
    exact (explains_accept _ a).bind fun _ => (explains_accept _ b).bind fun _ => .ok _
  | map entries => simpa only [accept] using (explains_acceptEntries path [] entries).map
  | _ => simpa only [accept] using .ok _

theorem explains_acceptItems (path : Path) (i : Nat) (items : List Value) :
    Explains (acceptItems path i items) := by
  cases items with
  | nil => simpa only [acceptItems] using .ok []
  | cons v vs =>
    simp only [acceptItems]
    exact (explains_accept _ v).bind fun _ => (explains_acceptItems path _ vs).bind fun _ => .ok _

theorem explains_acceptEntries (path : Path) (present : List Value)
    (entries : List (Value × Value)) : Explains (acceptEntries path present entries) := by
  match entries with
  | [] => simpa only [acceptEntries] using .ok []
  | (k, v) :: es =>
    simp only [acceptEntries]
    exact (explains_acceptKey path present k).bind fun _ => (explains_accept _ v).bind fun _ =>
      (explains_acceptEntries path _ es).bind fun _ => .ok _

end

/-! ### Drafts -/

theorem explained_conversion (f : Field) (cause : ConversionError) :
    (Error.conversion f cause).Explained := by
  refine ⟨rfl, ?_⟩
  cases cause <;> exact ⟨_, rfl⟩

theorem explained_unknownKey (key : Value) : (Error.unknownKey key).Explained := by
  refine ⟨rfl, ?_⟩
  simp only [Error.message?]
  split <;> exact ⟨_, rfl⟩

namespace Draft

theorem explains_merge (d : Draft) (f : Field) (v : Value) : Explains (d.merge f v) := by
  unfold merge
  extract_lets given
  have hgiven : Explains given := by
    unfold given
    split
    · exact .ok _
    · exact .error (explained_conversion f _)
  split
  · split
    · exact .ok d
    · split
      · exact .ok _
      · exact hgiven
  · exact hgiven

theorem explains_mergeEntry (d : Draft) (entry : Value × Value) :
    Explains (d.mergeEntry entry) := by
  unfold mergeEntry
  split
  · split
    · exact d.explains_merge _ _
    · exact .error (explained_unknownKey _)
  · exact .error (explained_unknownKey _)

/-- An entry that cannot be merged is refused with an explanation, as the first one of its list. -/
theorem explains_mergeAll (d : Draft) (entries : List (Value × Value)) :
    Explains (d.mergeAll entries) := by
  unfold mergeAll
  induction entries generalizing d with
  | nil => exact .ok d
  | cons entry entries ih =>
    rw [List.foldlM_cons]
    exact (d.explains_mergeEntry entry).bind fun d' => ih d'

theorem explains_get (d : Draft) (environment : String → Option String) (f : Field) :
    Explains (d.get environment f) := by
  unfold get
  cases d.read environment (Field.all.length + 1) f with
  | ok a => exact .ok a
  | error cause => cases cause <;> exact .error ⟨rfl, _, rfl⟩

theorem explains_positive (f : Field) (z : Int) : Explains (positive f z) := by
  unfold positive
  split
  · exact .error ⟨rfl, _, rfl⟩
  · exact .ok ()

/-- A setting that cannot be read or fails its check is refused with an explanation. -/
theorem explains_finish (d : Draft) (environment : String → Option String) :
    Explains (d.finish environment) := by
  have hget := d.explains_get environment
  unfold finish
  refine (hget _).bind fun ips => (explains_positive _ ips).bind fun _ => ?_
  refine (hget _).bind fun hertz => (explains_positive _ hertz).bind fun _ => ?_
  refine (hget _).bind fun scale => (explains_positive _ scale).bind fun _ => ?_
  refine (hget _).bind fun level => .check ⟨rfl, _, rfl⟩ ?_
  refine (hget _).bind fun scheme => .check ⟨rfl, _, rfl⟩ ?_
  exact (hget _).bind fun seed => (hget _).bind fun trace => .ok _

end Draft

end Chip8.Config
