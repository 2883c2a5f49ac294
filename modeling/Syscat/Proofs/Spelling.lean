/-
Module: Syscat.Proofs.Spelling
Purpose: Which values can be spelled out. Only the length of an integer stands in the way: a value has a
  text and a literal form exactly if every integer in it has at most `digitLimit` digits.
Main exports: Value.Spellable, Value.literal?_isSome_iff, Value.text?_isSome_iff, Signal.Spellable
-/
import Syscat.Signal

namespace Syscat

namespace Value

mutual

/-- Every integer in a value has at most `digitLimit` digits. -/
def Spellable : Value → Prop
  | integer n => n.natAbs < Nat.pow 10 digitLimit
  | list items => ItemsSpellable items
  | tuple items => ItemsSpellable items
  | table entries => EntriesSpellable entries
  | _ => True

/-- Every integer in the items of a sequence has at most `digitLimit` digits. -/
def ItemsSpellable : List Value → Prop
  | [] => True
  | v :: rest => v.Spellable ∧ ItemsSpellable rest

/-- Every integer in the keys and values of a table has at most `digitLimit` digits. -/
def EntriesSpellable : List (Value × Value) → Prop
  | [] => True
  | (k, v) :: rest => k.Spellable ∧ v.Spellable ∧ EntriesSpellable rest

end

/-- An integer has a text exactly if it is short enough. -/
theorem integerText?_isSome_iff (n : Int) :
    (integerText? n).isSome ↔ n.natAbs < Nat.pow 10 digitLimit := by
  unfold integerText?
  split
  case isTrue short => exact ⟨fun _ => short, fun _ => rfl⟩
  case isFalse long => exact ⟨nofun, fun short => absurd short long⟩

mutual

/-- A value has a literal form exactly if its integers are short enough. -/
theorem literal?_isSome_iff : (v : Value) → (v.literal?.isSome ↔ v.Spellable)
  | null | flag _ | double _ | decimal _ | text _ | octets _ | buffer _ | moment _ | day _ | clock _ => by
      simp [literal?, Spellable]
  | integer n => by
      rw [literal?, Spellable]
      exact integerText?_isSome_iff n
  | list items => by
      rw [literal?, Spellable, Option.isSome_map]
      exact itemLiterals?_isSome_iff items
  | tuple items => by
      rw [literal?, Spellable, Option.isSome_map]
      exact itemLiterals?_isSome_iff items
  | table entries => by
      rw [literal?, Spellable, Option.isSome_map]
      exact entryLiterals?_isSome_iff entries

theorem itemLiterals?_isSome_iff : (items : List Value) →
    ((itemLiterals? items).isSome ↔ ItemsSpellable items)
  | [] => by simp [itemLiterals?, ItemsSpellable]
  | v :: rest => by
      rw [ItemsSpellable, ← literal?_isSome_iff v, ← itemLiterals?_isSome_iff rest, itemLiterals?]
      cases v.literal? <;> cases itemLiterals? rest <;> simp

theorem entryLiterals?_isSome_iff : (entries : List (Value × Value)) →
    ((entryLiterals? entries).isSome ↔ EntriesSpellable entries)
  | [] => by simp [entryLiterals?, EntriesSpellable]
  | (k, v) :: rest => by
      rw [EntriesSpellable, ← literal?_isSome_iff k, ← literal?_isSome_iff v,
        ← entryLiterals?_isSome_iff rest, entryLiterals?]
      cases k.literal? <;> cases v.literal? <;> cases entryLiterals? rest <;> simp

end

/-- A value has a text exactly if its integers are short enough. -/
theorem text?_isSome_iff (v : Value) : v.text?.isSome ↔ v.Spellable := by
  cases v with
  | text _ | decimal _ | moment _ | day _ | clock _ => simp [text?, Spellable]
  | null | flag _ | integer _ | double _ | octets _ | buffer _ | list _ | tuple _ | table _ =>
      exact literal?_isSome_iff _

theorem entriesSpellable_iff {entries : List (Value × Value)} :
    EntriesSpellable entries ↔ ∀ e ∈ entries, e.1.Spellable ∧ e.2.Spellable := by
  induction entries with
  | nil => simp [EntriesSpellable]
  | cons e rest ih => simp [EntriesSpellable, ih, and_assoc]

/-- A value that can be spelled out has a literal form. -/
theorem Spellable.literal? {v : Value} (spellable : v.Spellable) : ∃ s, v.literal? = some s :=
  Option.isSome_iff_exists.mp ((literal?_isSome_iff v).mpr spellable)

/-- A value that can be spelled out has a text. -/
theorem Spellable.text? {v : Value} (spellable : v.Spellable) : ∃ s, v.text? = some s :=
  Option.isSome_iff_exists.mp ((text?_isSome_iff v).mpr spellable)

/-- The least integer that is too long to be printed. -/
def leastLong : Int := (Nat.pow 10 digitLimit : Nat)

theorem not_spellable_leastLong : ¬ (integer leastLong).Spellable := by
  rw [Spellable, leastLong, Int.natAbs_natCast]
  exact Nat.lt_irrefl _

theorem literal?_leastLong : (integer leastLong).literal? = none := by
  rw [← Option.not_isSome_iff_eq_none, literal?_isSome_iff]
  exact not_spellable_leastLong

theorem text?_leastLong : (integer leastLong).text? = none := by
  rw [← Option.not_isSome_iff_eq_none, text?_isSome_iff]
  exact not_spellable_leastLong

end Value

namespace Signal

/-- Every integer in the arguments of a signal has at most `digitLimit` digits. -/
def Spellable : Signal → Prop
  | raised _ args => Value.ItemsSpellable args
  | mapping message => message.Spellable
  | fetch name reason => name.Spellable ∧ reason.Spellable

theorem argsMessage?_isSome {args : List Value} (spellable : Value.ItemsSpellable args) :
    (argsMessage? args).isSome := by
  match args with
  | [] => rfl
  | [arg] => exact (Value.text?_isSome_iff arg).mpr spellable.1
  | a :: b :: rest => exact (Value.literal?_isSome_iff (.tuple (a :: b :: rest))).mpr spellable

theorem pathMessage?_isSome {args : List Value} (spellable : Value.ItemsSpellable args) :
    (pathMessage? args).isSome := by
  unfold pathMessage?
  split
  case h_1 => rfl
  case h_2 => rfl
  case h_3 path rest _ =>
    obtain ⟨shown, literal⟩ := spellable.1.literal?
    simp only [literal, Option.bind_eq_bind, Option.bind_some]
    split
    case h_1 => rfl
    case h_2 other target _ =>
      obtain ⟨shownTarget, literal⟩ := spellable.2.2.1.literal?
      simp only [literal, Option.bind_some]
      rfl
    case h_3 => rfl

theorem systemMessage?_isSome {args : List Value} (spellable : Value.ItemsSpellable args) :
    (systemMessage? args).isSome := by
  unfold systemMessage?
  split
  case h_1 number reason paths =>
    split
    case isTrue =>
      obtain ⟨shownNumber, number⟩ := spellable.1.text?
      obtain ⟨shownReason, reason⟩ := spellable.2.1.text?
      obtain ⟨shownPaths, paths⟩ := Option.isSome_iff_exists.mp (pathMessage?_isSome spellable.2.2)
      simp only [number, reason, paths, Option.bind_eq_bind, Option.bind_some]
      rfl
    case isFalse => exact argsMessage?_isSome spellable
  case h_2 => exact argsMessage?_isSome spellable

/-- A signal has a message if its arguments can be spelled out. -/
theorem message?_isSome {signal : Signal} (spellable : signal.Spellable) : signal.message?.isSome := by
  unfold message?
  split
  case h_1 key => exact (Value.literal?_isSome_iff key).mpr spellable.1
  case h_2 => exact systemMessage?_isSome spellable
  case h_3 => exact argsMessage?_isSome spellable
  case h_4 message => exact (Value.text?_isSome_iff message).mpr spellable
  case h_5 name reason =>
    obtain ⟨shownName, name⟩ := spellable.1.text?
    obtain ⟨shownReason, reason⟩ := spellable.2.text?
    simp only [name, reason, Option.bind_eq_bind, Option.bind_some]
    rfl

end Signal

end Syscat
