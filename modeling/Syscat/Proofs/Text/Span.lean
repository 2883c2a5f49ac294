/-
Module: Syscat.Proofs.Text.Span
Purpose: Runs of characters of one sort, and texts cut where such a run ends.
Main exports: forall_mem_of_all, takeWhile_run, dropWhile_run
-/
namespace Syscat

/-- What can be decided of each element is decided of the list from one end to the other. -/
theorem forall_mem_of_all {α : Type} {p : α → Prop} [DecidablePred p] {l : List α}
    (all : l.all (fun a => decide (p a)) = true) : ∀ a ∈ l, p a := by
  simpa using all

section
variable {α : Type} {p : α → Bool} {run rest : List α}

/-- A run ends where what follows begins with something of another sort. -/
theorem takeWhile_run (all : ∀ a ∈ run, p a = true) (stop : ∀ a ∈ rest.head?, p a = false) :
    (run ++ rest).takeWhile p = run := by
  rw [List.takeWhile_append_of_pos all]
  cases rest with
  | nil => exact List.append_nil run
  | cons a rest => rw [List.takeWhile_cons, stop a rfl]; exact List.append_nil run

/-- What follows a run is left when the run is dropped. -/
theorem dropWhile_run (all : ∀ a ∈ run, p a = true) (stop : ∀ a ∈ rest.head?, p a = false) :
    (run ++ rest).dropWhile p = rest := by
  rw [List.dropWhile_append_of_pos all]
  cases rest with
  | nil => rfl
  | cons a rest => rw [List.dropWhile_cons, stop a rfl]; rfl

end

end Syscat
