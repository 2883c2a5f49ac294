/-
Module: Syscat.Proofs.Json.Layout
Purpose: Documents in JSON consist of line ends, blanks and visible ASCII characters.
Main exports: Json.AllVisible, Json.allVisible_write
-/
import Syscat.Proofs.Json.Tree

namespace Syscat.Json

/-- Line ends, blanks and visible ASCII characters. -/
def Visible (c : Char) : Prop :=
  c = '\n' ∨ 32 ≤ c.toNat ∧ c.toNat < 127

instance (c : Char) : Decidable (Visible c) :=
  inferInstanceAs (Decidable (_ ∨ _))

/-- A text that consists of line ends, blanks and visible ASCII characters. -/
def AllVisible (s : List Char) : Prop :=
  ∀ c ∈ s, Visible c

theorem AllVisible.append {s t : List Char} (first : AllVisible s) (second : AllVisible t) :
    AllVisible (s ++ t) :=
  fun c inside => (List.mem_append.mp inside).elim (first c) (second c)

theorem AllVisible.cons {c : Char} {s : List Char} (first : Visible c) (second : AllVisible s) :
    AllVisible (c :: s) :=
  List.forall_mem_cons.mpr ⟨first, second⟩

theorem AllVisible.nil : AllVisible [] := nofun

theorem visible_hexDigit : ∀ d < 16, Visible (hexDigit d) := by decide

theorem allVisible_unitEscape (unit : Nat) : AllVisible (unitEscape unit) := by
  refine .cons (by decide) (.cons (by decide) fun c inside => ?_)
  obtain ⟨d, small, rfl⟩ := mem_hexText inside
  exact visible_hexDigit d small

theorem allVisible_quotedChar (c : Char) : AllVisible (quotedChar c) := by
  unfold quotedChar
  split
  case isTrue marked =>
    rcases (by simpa using marked : c = '\x22' ∨ c = '\\') with rfl | rfl
    · exact .cons (by decide) (.cons (by decide) .nil)
    · exact .cons (by decide) (.cons (by decide) .nil)
  case isFalse =>
    -- the escapes by letters, then the characters that stand for themselves
    repeat (split; exact .cons (by decide) (.cons (by decide) .nil))
    split
    case isTrue visible => exact .cons (.inr visible) .nil
    case isFalse =>
      rw [charEscape]
      split
      case isTrue => exact allVisible_unitEscape _
      case isFalse => exact (allVisible_unitEscape _).append (allVisible_unitEscape _)

theorem allVisible_quote (s : List Char) : AllVisible (quote s) := by
  refine .cons (by decide) (.append (fun c inside => ?_) (.cons (by decide) .nil))
  obtain ⟨d, _, part⟩ := List.mem_flatMap.mp inside
  exact allVisible_quotedChar d c part

theorem allVisible_lineStart (depth : Nat) : AllVisible (lineStart depth) := by
  refine .cons (by decide) fun c inside => ?_
  rw [List.eq_of_mem_replicate inside]
  decide

theorem allVisible_bracketed {opening closing : Char} (opens : Visible opening) (closes : Visible closing)
    (depth : Nat) {parts : List (List Char)} (all : ∀ part ∈ parts, AllVisible part) :
    AllVisible (bracketed opening closing depth parts) := by
  have inside : ∀ parts : List (List Char), (∀ part ∈ parts, AllVisible part) →
      AllVisible (chained depth closing [] parts) := by
    intro parts
    fun_induction chained depth closing [] parts with
    | case1 => exact fun _ => .cons closes .nil
    | case2 part =>
        intro all
        exact (all part List.mem_cons_self).append
          ((allVisible_lineStart depth).append (.cons closes .nil))
    | case3 part next parts ih =>
        intro all
        refine (all part List.mem_cons_self).append
          (.cons (by decide) ((allVisible_lineStart _).append ?_))
        exact ih fun part inside => all part (List.mem_cons_of_mem _ inside)
  cases parts with
  | nil => exact .cons opens (.cons closes .nil)
  | cons part parts =>
      have shape := bracketed_append opening closing depth part parts []
      rw [List.append_nil] at shape
      rw [shape]
      exact .cons opens ((allVisible_lineStart _).append (inside _ all))

theorem allVisible_integer (n : Int) : AllVisible (integerSign n ++ Nat.toDigits 10 n.natAbs) := by
  refine .append ?_ fun c inside => ?_
  · rw [integerSign]
    split
    · exact .cons (by decide) .nil
    · exact .nil
  · obtain ⟨low, high⟩ := toNat_of_isDigit (isDigit_of_mem_digits inside)
    exact .inr ⟨by omega, by omega⟩

mutual

/-- What is written consists of line ends, blanks and visible ASCII characters. -/
theorem allVisible_render : (d : Document) → ∀ (depth : Nat) (part : List Char),
    render depth d = .ok part → AllVisible part
  | .null => by
      intro depth part written
      cases written
      exact forall_mem_of_all (by decide)
  | .flag b => by
      intro depth part written
      cases written
      cases b
      · exact forall_mem_of_all (by decide)
      · exact forall_mem_of_all (by decide)
  | .integer n => by
      intro depth part written
      rw [render] at written
      rw [(integerDigits_eq_ok written).2]
      exact allVisible_integer n
  | .text s => by
      intro depth part written
      cases written
      exact allVisible_quote s.toList
  | .list items => by
      intro depth part written
      rw [render] at written
      obtain ⟨parts, lines, rfl⟩ := exists_of_map_eq_ok written
      exact allVisible_bracketed (by decide) (by decide) depth
        (allVisible_renderItems items _ parts lines)
  | .record fields => by
      intro depth part written
      rw [render] at written
      obtain ⟨parts, lines, rfl⟩ := exists_of_map_eq_ok written
      exact allVisible_bracketed (by decide) (by decide) depth
        (allVisible_renderFields fields _ parts lines)

theorem allVisible_renderItems : (items : List Document) → ∀ (depth : Nat) (parts : List (List Char)),
    renderItems depth items = .ok parts → ∀ part ∈ parts, AllVisible part
  | [] => by
      intro depth parts written
      cases written
      exact nofun
  | d :: items => by
      intro depth parts written
      obtain ⟨part, lines, one, more, rfl⟩ := renderItems_cons_eq_ok written
      exact List.forall_mem_cons.mpr
        ⟨allVisible_render d depth part one, allVisible_renderItems items depth lines more⟩

theorem allVisible_renderFields : (fields : List (String × Document)) → ∀ (depth : Nat)
    (parts : List (List Char)), renderFields depth fields = .ok parts → ∀ part ∈ parts, AllVisible part
  | [] => by
      intro depth parts written
      cases written
      exact nofun
  | (name, d) :: fields => by
      intro depth parts written
      obtain ⟨part, lines, one, more, rfl⟩ := renderFields_cons_eq_ok written
      have member := (allVisible_quote name.toList).append
        (.cons (c := ':') (by decide) (.cons (c := ' ') (by decide) (allVisible_render d depth part one)))
      exact List.forall_mem_cons.mpr ⟨member, allVisible_renderFields fields depth lines more⟩

end

end Syscat.Json
