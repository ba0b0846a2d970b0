import Chip8.Proofs.Usable
import Mathlib.Data.Bool.AllAny
import Mathlib.Data.List.Induction

/-!
# Overrides of settings, put together

All overrides are put into one tree before that is merged into a configuration. In general the path of an
override leads through maps, lists and references; here it is the name of a setting and nothing more. Then the
tree has one entry for each setting that is overridden, and what it has there stands for the value of the last
override (`gather_of_ok`): it is that value, or else both are lists or maps, which fit no setting. Overrides by
values that are neither can always be put together (`gather_plain`).
-/

namespace Chip8.Config

variable {environment : String → Option String}

/-! ### Entries -/

/-- The last that is given to a setting. -/
def latest? {α : Type} (es : List (Field × α)) (f : Field) : Option α := es.reverse.lookup f

theorem latest?_concat {α : Type} (es : List (Field × α)) (e : Field × α) (f : Field) :
    latest? (es ++ [e]) f = if e.1 = f then some e.2 else latest? es f := by
  unfold latest?
  rw [List.reverse_append, List.reverse_singleton, List.singleton_append, List.lookup_cons]
  cases h : f == e.1 with
  | true => rw [if_pos (eq_of_beq h).symm]
  | false => rw [if_neg fun heq => by simp [heq] at h]

theorem mem_of_latest? {α : Type} {es : List (Field × α)} {f : Field} {a : α} (h : latest? es f = some a) :
    (f, a) ∈ es := by
  obtain ⟨before, behind, hes, -⟩ := List.lookup_eq_some_iff.mp h
  rw [← List.mem_reverse, hes]
  simp

/-- An entry of a map. -/
def named (e : Field × Value) : Value × Value := (.text e.1.name, e.2)

theorem name_injective {f g : Field} (h : f.name = g.name) : f = g := by
  revert h
  cases f <;> cases g <;> decide

theorem ofName?_name (f : Field) : Field.ofName? f.name = some f := by cases f <;> decide

/-- The entries with the value of a setting replaced, or added if there is none. -/
def upsert (es : List (Field × Value)) (f : Field) (v : Value) : List (Field × Value) :=
  if es.any (·.1 == f) then es.map fun e => if e.1 == f then (e.1, v) else e else es ++ [(f, v)]

theorem lookup_replaced (es : List (Field × Value)) (f : Field) (v : Value) (g : Field) :
    (es.map fun e => if e.1 == f then (e.1, v) else e).lookup g =
      if f = g then (es.lookup g).map fun _ => v else es.lookup g := by
  induction es with
  | nil => simp
  | cons e es ih =>
    rw [List.map_cons]
    by_cases hf : e.1 = f <;> by_cases hg : g = e.1 <;> grind

theorem lookup_isSome_of_any {es : List (Field × Value)} {f : Field} (h : es.any (·.1 == f) = true) :
    (es.lookup f).isSome := by
  obtain ⟨e, he, hf⟩ := List.any_eq_true.mp h
  rw [Option.isSome_iff_ne_none]
  intro hnone
  have hother := List.lookup_eq_none_iff.mp hnone e he
  simp_all

theorem latest?_upsert (es : List (Field × Value)) (f : Field) (v : Value) (g : Field) :
    latest? (upsert es f v) g = if f = g then some v else latest? es g := by
  unfold upsert
  split
  case isTrue hany =>
    unfold latest?
    rw [← List.map_reverse, lookup_replaced]
    by_cases hg : f = g
    · subst hg
      obtain ⟨w, hw⟩ := Option.isSome_iff_exists.mp
        (lookup_isSome_of_any (List.any_reverse.trans hany))
      simp [hw]
    · simp [hg]
  case isFalse => exact latest?_concat es (f, v) g

theorem mem_upsert {es : List (Field × Value)} {f : Field} {v : Value} {e : Field × Value}
    (h : e ∈ upsert es f v) : e = (f, v) ∨ (e.1 ≠ f ∧ e ∈ es) := by
  unfold upsert at h
  split at h
  case isTrue =>
    obtain ⟨e', he', rfl⟩ := List.mem_map.mp h
    by_cases hf : e'.1 = f
    · exact .inl (by simp [hf])
    · exact .inr (by simpa [hf] using he')
  case isFalse hany =>
    obtain he | he := List.mem_append.mp h
    · exact .inr ⟨fun hf => hany (List.any_eq_true.mpr ⟨e, he, by simp [hf]⟩), he⟩
    · exact .inl (List.mem_singleton.mp he)

theorem isSameKey_name (f g : Field) : (Value.text f.name).isSameKey (.text g.name) = (f == g) := by
  cases f <;> cases g <;> decide

/-- A value that is put in the place of a setting replaces that entry or is added. -/
theorem setChild_named (es : List (Field × Value)) (f : Field) (v : Value) :
    Path.setChild (.map (es.map named)) v (.key (.text f.name)) = .map ((upsert es f v).map named) := by
  unfold Path.setChild upsert
  simp only [List.any_map, Function.comp_def, named, isSameKey_name, List.map_map]
  split
  case isTrue h =>
    rw [List.map_map]
    refine congrArg Value.map (List.map_congr_left fun e _ => ?_)
    simp only [Function.comp_def]
    split <;> rfl
  case isFalse h => simp [named]

theorem set_named (es : List (Field × Value)) (f : Field) (v : Value) :
    Path.set v (.map (es.map named)) [.key (.text f.name)] = .map ((upsert es f v).map named) := by
  unfold Path.set
  split <;> exact setChild_named es f v

/-! ### Values that stand for themselves -/

/-- A value stands for itself: it is no text that refers to other settings or is three question marks, also
behind backslashes. -/
def IsLiteral : Value → Prop
  | .text s => Reference.refers s.toList = false ∧ slashes? s = none
  | _ => True

/-- A value is plain: it is no list and no map, stands for itself, and is of a kind that configurations hold. -/
structure IsPlain (v : Value) : Prop where
  /-- It has no values inside. -/
  single : v.isContainer = false
  /-- It stands for itself. -/
  literal : IsLiteral v
  /-- It is of a kind that configurations hold. -/
  held : ∀ kind, v ≠ .foreign kind

/-- A plain value is accepted as it is. -/
theorem accept_plain {v : Value} (hv : IsPlain v) (path : Path) : accept path v = .ok v := by
  cases v with
  | text s =>
    obtain ⟨hrefers, hslashes⟩ := hv.literal
    simp only [accept, acceptText, hslashes, acceptReferences, hrefers]
    rfl
  | foreign kind => exact absurd rfl (hv.held kind)
  | list items => cases hv.single
  | pair a b => cases hv.single
  | map es => cases hv.single
  | _ => rfl

/-- A literal value is accepted as it is, if at all. -/
theorem eq_of_accept {path : Path} {v w : Value} (hv : IsLiteral v) (hsingle : v.isContainer = false)
    (h : accept path v = .ok w) : w = v := by
  by_cases hforeign : ∃ kind, v = .foreign kind
  · obtain ⟨kind, rfl⟩ := hforeign
    cases h
  · rw [accept_plain ⟨hsingle, hv, not_exists.mp hforeign⟩] at h
    exact (Except.ok.inj h).symm

theorem ok_bind {α β : Type} (a : α) (f : α → Except Error β) : (Except.ok a >>= f) = f a := rfl

/-- What is computed from a result has that result before it. -/
theorem map_eq_ok {α β : Type} {x : Except Error α} {f : α → β} {b : β} (h : x.map f = .ok b) :
    ∃ a, x = .ok a ∧ f a = b := by
  cases x with
  | error e => cases h
  | ok a => exact ⟨a, rfl, Except.ok.inj h⟩

/-- What is accepted of a list or a map is one. -/
theorem isContainer_of_accept {path : Path} {v w : Value} (hv : v.isContainer = true)
    (h : accept path v = .ok w) : w.isContainer = true := by
  cases v with
  | list items =>
    rw [accept] at h
    obtain ⟨items', -, rfl⟩ := map_eq_ok h
    rfl
  | pair a b =>
    rw [accept] at h
    obtain ⟨a', -, h⟩ := bind_eq_ok h
    obtain ⟨b', -, h⟩ := bind_eq_ok h
    cases h
    rfl
  | map es =>
    rw [accept] at h
    obtain ⟨es', -, rfl⟩ := map_eq_ok h
    rfl
  | _ => cases hv

/-- What stands in a tree for a value: the value itself, or another list or map. -/
def StandsFor (w v : Value) : Prop := w = v ∨ (w.isContainer = true ∧ v.isContainer = true)

theorem StandsFor.eq_of_single {w v : Value} (h : StandsFor w v)
    (hsingle : w.isContainer = false ∨ v.isContainer = false) : w = v := by
  obtain rfl | ⟨hw, hv⟩ := h
  · rfl
  · simp [hw, hv] at hsingle

theorem StandsFor.isLiteral {w v : Value} (h : StandsFor w v) (hv : IsLiteral v) : IsLiteral w := by
  obtain rfl | ⟨hw, -⟩ := h
  · exact hv
  · cases w with
    | text s => cases hw
    | _ => trivial

theorem standsFor_of_accept {path : Path} {v w : Value} (hv : IsLiteral v) (h : accept path v = .ok w) :
    StandsFor w v := by
  cases hcontainer : v.isContainer with
  | false => exact .inl (eq_of_accept hv hcontainer h)
  | true => exact .inr ⟨isContainer_of_accept hcontainer h, hcontainer⟩

/-! ### One override -/

namespace Override

theorem divide_append {path : List Char} (hpath : ∀ c ∈ path, c ≠ '\\' ∧ c ≠ '=') (cs : List Char) :
    divide (path ++ '=' :: cs) = (path, some cs) := by
  induction path with
  | nil => rfl
  | cons c path ih =>
    obtain ⟨hslash, hsign⟩ := hpath c List.mem_cons_self
    rw [List.cons_append, divide, ih fun d hd => hpath d (List.mem_cons_of_mem c hd)]
    · exact fun _ hc _ => hslash hc
    · exact fun h => hsign h

theorem integer?_name (f : Field) : Text.integer? f.name = none := by cases f <;> decide +kernel

theorem parts_name (f : Field) : KeyText.parts f.name = [f.name] := by
  cases f <;> decide +kernel

/-- An override of a setting is read as its name and the value of what stands behind the equals sign. -/
theorem read_name (f : Field) (text : String) :
    read (f.name ++ "=" ++ text) = match Yaml.parse text with
      | .ok v => .ok ⟨[f.name], v⟩
      | .error e => .error (.malformed e) := by
  have hname : ∀ c ∈ f.name.toList, c ≠ '\\' ∧ c ≠ '=' :=
    List.all_iff_forall_prop.mp (by cases f <;> decide)
  have hdivide : divide (f.name ++ "=" ++ text).toList = (f.name.toList, some text.toList) := by
    rw [String.toList_append, String.toList_append, List.append_assoc]
    exact divide_append hname text.toList
  unfold read
  rw [hdivide]
  cases hparse : Yaml.parse text <;> simp only [String.ofList_toList, parts_name, hparse]

theorem lastStep_name (path : Path) (es : List (Value × Value)) (f : Field) :
    lastStep path (.map es) f.name = .ok (.key (.text f.name)) := by
  unfold lastStep select
  cases h : Path.child? (.map es) (.key (.text f.name)) <;>
    simp [Value.items?, h, integer?_name, Except.map, Except.mapError]

/-- A list or a map is joined to one. -/
theorem isContainer_of_join {refuse : Error} {resolved : Value → Value} {path : Path} {old v w : Value}
    (hv : v.isContainer = true) (h : join refuse resolved path old v = .ok w) : w.isContainer = true := by
  unfold join at h
  split at h
  case h_1 =>
    split at h
    case h_1 =>
      obtain ⟨es, -, rfl⟩ := map_eq_ok h
      rfl
    case h_2 => cases h
  case h_2 =>
    split at h
    case h_1 =>
      cases h
      rfl
    case h_2 => cases h
  case h_3 =>
    cases h
    exact hv

/-- An override of a setting changes the entry for that setting. -/
theorem put_of_ok {depth : Nat} {es : List (Field × Value)} {f : Field} {v root : Value} (hv : IsLiteral v)
    (h : put environment depth (.map (es.map named)) ⟨[f.name], v⟩ = .ok root) :
    ∃ w, root = .map ((upsert es f w).map named) ∧ StandsFor w v := by
  -- Whether or not there is an entry, a value that is not joined to it is put in its place.
  have hplaced (h : (do
      let w ← accept [.key (.text f.name)] v
      pure (Path.set w (.map (es.map named)) [.key (.text f.name)])) = Except.ok root) :
      ∃ w, root = .map ((upsert es f w).map named) ∧ StandsFor w v := by
    obtain ⟨w, hw, h⟩ := bind_eq_ok h
    cases h
    exact ⟨w, set_named es f w, standsFor_of_accept hv hw⟩
  simp only [put, List.getLast?_singleton, List.dropLast_singleton, List.foldlM_nil, pure_bind, Path.get?,
    Option.getD_some, lastStep_name] at h
  obtain ⟨step, hstep, h⟩ := bind_eq_ok h
  cases hstep
  split at h
  case h_1 old _ =>
    split at h
    case isTrue hboth =>
      obtain ⟨value, haccept, h⟩ := bind_eq_ok h
      obtain ⟨w, hjoin, h⟩ := bind_eq_ok h
      cases h
      have hv := (Bool.and_eq_true_iff.mp hboth).2
      exact ⟨w, set_named es f w, .inr ⟨isContainer_of_join (isContainer_of_accept hv haccept) hjoin, hv⟩⟩
    case isFalse => exact hplaced h
  case h_2 => exact hplaced h

/-- An override of a setting by a plain value gives the setting that value. -/
theorem put_plain {v : Value} (hv : IsPlain v) (depth : Nat) (es : List (Field × Value)) (f : Field) :
    put environment depth (.map (es.map named)) ⟨[f.name], v⟩ = .ok (.map ((upsert es f v).map named)) := by
  simp only [put, List.getLast?_singleton, List.dropLast_singleton, List.foldlM_nil, pure_bind, Path.get?,
    Option.getD_some, lastStep_name, ok_bind, accept_plain hv, hv.single, Bool.and_false, ← set_named]
  split <;> rfl

/-! ### Any number of overrides -/

/-- The text that overrides a setting. -/
def ofSetting (o : Field × String) : String := o.1.name ++ "=" ++ o.2

/-- What a tree has stands for the value of a text. -/
def Reads (w : Value) (text : String) : Prop := ∃ v, Yaml.parse text = .ok v ∧ StandsFor w v

/-- The values of overrides are literal, if they can be read. -/
def Literal (os : List (Field × String)) : Prop := ∀ o ∈ os, ∀ v, Yaml.parse o.2 = .ok v → IsLiteral v

/-- The values of overrides can be read and are plain. -/
def Plain (os : List (Field × String)) : Prop := ∀ o ∈ os, ∃ v, Yaml.parse o.2 = .ok v ∧ IsPlain v

/-- The entries of a tree are what overrides come to. -/
structure Gathered (es : List (Field × Value)) (os : List (Field × String)) : Prop where
  /-- There is one entry for a setting. -/
  unique : ∀ e ∈ es, latest? es e.1 = some e.2
  /-- The values are literal. -/
  literal : ∀ e ∈ es, IsLiteral e.2
  /-- Just the settings that are overridden have entries, each for its last override. -/
  reads : ∀ f, Option.Rel Reads (latest? es f) (latest? os f)

/-- A setting that is overridden has an entry. -/
theorem Gathered.of_latest? {es : List (Field × Value)} {os : List (Field × String)} (h : Gathered es os)
    {f : Field} {text : String} (hlast : latest? os f = some text) :
    ∃ w, latest? es f = some w ∧ Reads w text := by
  have hreads := h.reads f
  rw [hlast] at hreads
  generalize latest? es f = w? at hreads
  cases hreads with
  | some hread => exact ⟨_, rfl, hread⟩

/-- A setting that is not overridden has none. -/
theorem Gathered.of_none {es : List (Field × Value)} {os : List (Field × String)} (h : Gathered es os)
    {f : Field} (hlast : latest? os f = none) : latest? es f = none := by
  have hreads := h.reads f
  rw [hlast] at hreads
  generalize latest? es f = w? at hreads
  cases hreads
  rfl

/-- An entry is there for an override. -/
theorem Gathered.of_mem {es : List (Field × Value)} {os : List (Field × String)} (h : Gathered es os)
    {e : Field × Value} (he : e ∈ es) : ∃ text, latest? os e.1 = some text ∧ Reads e.2 text := by
  have hreads := h.reads e.1
  rw [h.unique e he] at hreads
  generalize latest? os e.1 = text? at hreads
  cases hreads with
  | some hread => exact ⟨_, rfl, hread⟩

theorem Gathered.nil : Gathered [] [] where
  unique := nofun
  literal := nofun
  reads _ := .none

/-- One more override counts instead of those before it. -/
theorem Gathered.upsert {es : List (Field × Value)} {os : List (Field × String)} (h : Gathered es os)
    {f : Field} {text : String} {v w : Value} (hparse : Yaml.parse text = .ok v) (hv : IsLiteral v)
    (hw : StandsFor w v) : Gathered (upsert es f w) (os ++ [(f, text)]) where
  unique e he := by
    rw [latest?_upsert]
    obtain rfl | ⟨hne, he⟩ := mem_upsert he
    · exact if_pos rfl
    · rw [if_neg hne.symm]
      exact h.unique e he
  literal e he := by
    obtain rfl | ⟨-, he⟩ := mem_upsert he
    · exact hw.isLiteral hv
    · exact h.literal e he
  reads g := by
    rw [latest?_upsert, latest?_concat]
    split
    · exact .some ⟨v, hparse, hw⟩
    · exact h.reads g

/-- Adds the override of a text to a tree. -/
def add (environment : String → Option String) (depth : Nat) (root : Value) (s : String) :
    Except Error Value := do
  put environment depth root (← read s)

theorem gather_eq (environment : String → Option String) (overrides : List String) :
    gather environment overrides =
      (overrides.foldlM (add environment ((String.join overrides).length + 1)) (.map []) >>= fun root =>
        match root with
        | .map entries => .ok entries
        | _ => .ok []) := rfl

theorem gathered_of_add {depth : Nat} {es : List (Field × Value)} {os : List (Field × String)} {root : Value}
    (hes : Gathered es os) {o : Field × String} (ho : ∀ v, Yaml.parse o.2 = .ok v → IsLiteral v)
    (h : add environment depth (.map (es.map named)) (ofSetting o) = .ok root) :
    ∃ es', root = .map (es'.map named) ∧ Gathered es' (os ++ [o]) := by
  rw [add, ofSetting, read_name] at h
  obtain ⟨read, hread, hput⟩ := bind_eq_ok h
  cases hparse : Yaml.parse o.2 with
  | error e =>
    rw [hparse] at hread
    cases hread
  | ok v =>
    rw [hparse] at hread
    cases hread
    obtain ⟨w, rfl, hw⟩ := put_of_ok (ho v hparse) hput
    exact ⟨_, rfl, hes.upsert hparse (ho v hparse) hw⟩

theorem gathered_of_foldlM {depth : Nat} {os : List (Field × String)} (hos : Literal os) {root : Value}
    (h : (os.map ofSetting).foldlM (add environment depth) (.map []) = .ok root) :
    ∃ es, root = .map (es.map named) ∧ Gathered es os := by
  induction os using List.reverseRecOn generalizing root with
  | nil =>
    cases h
    exact ⟨[], rfl, .nil⟩
  | append_singleton os o ih =>
    rw [List.map_append, List.foldlM_append] at h
    obtain ⟨before, hbefore, h⟩ := bind_eq_ok h
    obtain ⟨es, rfl, hes⟩ := ih (fun o' ho' => hos o' (List.mem_append_left _ ho')) hbefore
    rw [List.map_singleton, List.foldlM_cons] at h
    obtain ⟨after, hafter, h⟩ := bind_eq_ok h
    cases h
    exact gathered_of_add hes (hos o (by simp)) hafter

/-- **Overrides put together.** The tree has one entry for each setting that is overridden, and it stands for
the value of the last override of that setting. -/
theorem gather_of_ok {os : List (Field × String)} (hos : Literal os) {entries : List (Value × Value)}
    (h : gather environment (os.map ofSetting) = .ok entries) :
    ∃ es, entries = es.map named ∧ Gathered es os := by
  rw [gather_eq] at h
  obtain ⟨root, hroot, h⟩ := bind_eq_ok h
  obtain ⟨es, rfl, hes⟩ := gathered_of_foldlM hos hroot
  cases h
  exact ⟨es, rfl, hes⟩

theorem foldlM_add_plain {os : List (Field × String)} (hos : Plain os) (environment : String → Option String)
    (depth : Nat) (es : List (Field × Value)) :
    ∃ es' : List (Field × Value),
      (os.map ofSetting).foldlM (add environment depth) (.map (es.map named)) = .ok (.map (es'.map named)) := by
  induction os generalizing es with
  | nil => exact ⟨es, rfl⟩
  | cons o os ih =>
    obtain ⟨v, hparse, hv⟩ := hos o List.mem_cons_self
    obtain ⟨es', hes'⟩ := ih (fun o' ho' => hos o' (List.mem_cons_of_mem o ho')) (upsert es o.1 v)
    refine ⟨es', ?_⟩
    have hadd : add environment depth (.map (es.map named)) (ofSetting o) =
        .ok (.map ((upsert es o.1 v).map named)) := by
      rw [add, ofSetting, read_name, hparse]
      exact put_plain hv depth es o.1
    rw [List.map_cons, List.foldlM_cons, hadd]
    exact hes'

/-- Overrides by plain values can be put together. -/
theorem gather_plain {os : List (Field × String)} (hos : Plain os) (environment : String → Option String) :
    ∃ es : List (Field × Value), gather environment (os.map ofSetting) = .ok (es.map named) := by
  obtain ⟨es, hes⟩ := foldlM_add_plain hos environment ((String.join (os.map ofSetting)).length + 1) []
  rw [List.map_nil] at hes
  exact ⟨es, by rw [gather_eq, hes, ok_bind]⟩

end Override

end Chip8.Config
