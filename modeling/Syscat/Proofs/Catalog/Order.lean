/-
Module: Syscat.Proofs.Catalog.Order
Purpose: The answers of queries on tables of named rows. The order of a query is the lexicographic
  order of the names in its columns, a missing name first and the others by their octets; an answer
  lists each row that meets the conditions once, in this order.
Main exports: Value.IsName, Record.key, Record.cut, recordBefore_iff, Query.picks, Query.Lists,
  Query.lists_answer
-/
import Mathlib.Data.List.Lex
import Mathlib.Order.WithBot
import Syscat.Catalog

namespace Syscat

/-! ### The order of names -/

/-- The order of octets is the lexicographic order of their numbers. -/
theorem octetsBefore_iff (as bs : List UInt8) :
    octetsBefore as bs = true ↔ as.map UInt8.toNat < bs.map UInt8.toNat := by
  induction as generalizing bs with
  | nil => cases bs <;> simp [octetsBefore]
  | cons a as ih =>
      cases bs with
      | nil => simp [octetsBefore]
      | cons b bs =>
          simp [octetsBefore, ih, List.cons_lt_cons_iff, UInt8.lt_iff_toNat_lt, UInt8.toNat_inj]

namespace Value

/-- A value that names something in a catalog: a text, or null where the name is missing. -/
inductive IsName : Value → Prop where
  | null : IsName null
  | text (s : String) : IsName (text s)

/-- The place of a name in the order of names: the numbers of its octets in UTF-8. A missing name goes
first. -/
def nameKey : Value → WithBot (List Nat)
  | text s => ((utf8Encode s.toList).map UInt8.toNat : List Nat)
  | _ => ⊥

@[simp] theorem nameKey_null : null.nameKey = ⊥ := rfl

@[simp] theorem nameKey_text (s : String) :
    (text s).nameKey = ((utf8Encode s.toList).map UInt8.toNat : List Nat) := rfl

end Value

theorem storedBefore_iff {v w : Value} (named : v.IsName) (named' : w.IsName) :
    storedBefore v w = true ↔ v.nameKey < w.nameKey := by
  cases named with
  | null =>
      cases named' with
      | null => simp [storedBefore]
      | text t => simp only [storedBefore, Value.nameKey_null, Value.nameKey_text, WithBot.bot_lt_coe]
  | text s =>
      cases named' with
      | null => simp [storedBefore]
      | text t =>
          simp only [storedBefore, Value.nameKey_text, octetsBefore_iff, WithBot.coe_lt_coe]

namespace Record

/-- The places of a row's names in some columns. -/
def key (columns : List String) (record : Record) : List (WithBot (List Nat)) :=
  columns.map fun column => (record.get column).nameKey

/-- A row with some columns only, as the answer of a query gives it. -/
def cut (columns : List String) (record : Record) : Record :=
  columns.map fun column => (column, record.get column)

/-- A row has names, if any, in some columns. -/
def Named (columns : List String) (record : Record) : Prop :=
  ∀ column ∈ columns, (record.get column).IsName

end Record

/-- The order of rows by some columns is the lexicographic order of their names in these columns. -/
theorem recordBefore_iff {columns : List String} {a b : Record} (named : a.Named columns)
    (named' : b.Named columns) :
    recordBefore columns a b = true ↔ a.key columns < b.key columns := by
  induction columns with
  | nil => simp [recordBefore, Record.key]
  | cons column columns ih =>
      have here := storedBefore_iff (named column List.mem_cons_self) (named' column List.mem_cons_self)
      have back := storedBefore_iff (named' column List.mem_cons_self) (named column List.mem_cons_self)
      have behind := ih (fun c inside => named c (List.mem_cons_of_mem column inside))
        (fun c inside => named' c (List.mem_cons_of_mem column inside))
      simp only [recordBefore, Bool.or_eq_true, Bool.and_eq_true, Bool.not_eq_true', Record.key,
        List.map_cons, List.cons_lt_cons_iff] at behind ⊢
      rw [here, behind, ← Bool.not_eq_true, back]
      constructor
      · rintro (before | ⟨notAfter, before⟩)
        · exact .inl before
        · rcases lt_or_eq_of_le (not_lt.mp notAfter) with earlier | same
          · exact .inl earlier
          · exact .inr ⟨same, before⟩
      · rintro (before | ⟨same, before⟩)
        · exact .inl before
        · exact .inr ⟨same ▸ lt_irrefl _, before⟩

/-! ### Answers -/

/-- Items that are sorted by an order of their keys are in the order of their keys. -/
theorem pairwise_mergeSort_key {α κ : Type} [LinearOrder κ] (key : α → κ) {le : α → α → Bool}
    {items : List α} (same : ∀ a ∈ items, ∀ b ∈ items, le a b = decide (key a ≤ key b)) :
    (items.mergeSort le).Pairwise fun a b => key a ≤ key b := by
  have keys : (items.mergeSort le).map key = (items.map key).mergeSort fun a b => decide (a ≤ b) :=
    List.map_mergeSort same
  have sorted : ((items.map key).mergeSort fun a b => decide (a ≤ b)).Pairwise fun a b =>
      decide (a ≤ b) = true := by
    refine List.pairwise_mergeSort (fun a b c => ?_) (fun a b => ?_) _
    · simpa using le_trans
    · simpa using le_total a b
  rw [← keys, List.pairwise_map] at sorted
  exact sorted.imp fun le => of_decide_eq_true le

namespace Query

/-- Whether a row meets the conditions of a query. -/
def picks (q : Query) (record : Record) : Bool :=
  q.conditions.all (Condition.holds record)

/-- An answer lists the rows of a table that meet the conditions of a query: each of them once, in the
order of the query, and with its columns. -/
structure Lists (q : Query) (table rows answer : List Record) : Prop where
  once : rows.Perm (table.filter q.picks)
  sorted : rows.Pairwise fun a b => a.key q.order ≤ b.key q.order
  cut : answer = rows.map (Record.cut q.columns)

/-- The answer of a query that orders rows by names lists the rows that meet its conditions. -/
theorem lists_answer (q : Query) {table : List Record}
    (named : ∀ record ∈ table, record.Named q.order) :
    ∃ rows, q.Lists table rows (q.answer table) := by
  refine ⟨(table.filter q.picks).mergeSort fun a b => !recordBefore q.order b a, ?_, ?_, rfl⟩
  · exact List.mergeSort_perm _ _
  · refine pairwise_mergeSort_key (Record.key q.order) fun a inside b inside' => ?_
    have before := recordBefore_iff (named b (List.mem_of_mem_filter inside'))
      (named a (List.mem_of_mem_filter inside))
    rw [Bool.eq_iff_iff, Bool.not_eq_true', ← Bool.not_eq_true, before, decide_eq_true_iff, not_lt]

end Query

end Syscat
