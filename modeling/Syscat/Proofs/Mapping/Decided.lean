/-
Module: Syscat.Proofs.Mapping.Decided
Purpose: Which failure a computation ends with. The failure of a sequence of steps is the first that
  one of them has. So under the strict treatment the columns of a row that can be spelled out fail for
  the first unknown code in a column that is consulted, and for nothing else.
Main exports: Logged.Decided, Logged.Decided.andThen, Row.firstFault?, Row.decided_readRoutine
-/
import Syscat.Proofs.Mapping.Failures

namespace Syscat

/-! ### The failure that comes first -/

/-- The first result in a list is that of its head, or else that of its tail. -/
theorem findSome?_cons_or {α β : Type} (f : α → Option β) (a : α) (rest : List α) :
    (a :: rest).findSome? f = (f a).or (rest.findSome? f) := by
  rw [List.findSome?_cons]
  cases f a <;> rfl

namespace Logged

section
variable {α β : Type}

/-- A computation ends with the failure, or with a result if there is none. -/
def Decided (failure? : Option Failure) (x : Logged α) : Prop :=
  match failure? with
  | some f => x.result = .error f
  | none => ∃ a, x.result = .ok a

theorem decided_some {f : Failure} {x : Logged α} : Decided (some f) x ↔ x.result = .error f := Iff.rfl

theorem decided_none {x : Logged α} : Decided none x ↔ ∃ a, x.result = .ok a := Iff.rfl

theorem Decided.pure (a : α) : Decided none (pure a : Logged α) := ⟨a, rfl⟩

/-- A computation gives a result exactly if it is not decided to fail. -/
theorem Decided.ok_iff {failure? : Option Failure} {x : Logged α} (decided : Decided failure? x) :
    (∃ a, x.result = .ok a) ↔ failure? = none := by
  cases failure? with
  | none => exact ⟨fun _ => rfl, fun _ => decided⟩
  | some f =>
      rw [decided_some] at decided
      rw [decided]
      exact ⟨nofun, nofun⟩

/-- The failure of the first step comes first. -/
theorem Decided.andThen {first second : Option Failure} {x : Logged α} {f : α → Logged β}
    (decided : Decided first x) (next : ∀ a, x.result = .ok a → Decided second (f a)) :
    Decided (first.or second) (x >>= f) := by
  cases first with
  | some e =>
      change (x >>= f).result = .error e
      rw [result_bind, show x.result = .error e from decided]
      rfl
  | none =>
      obtain ⟨a, ok⟩ := decided
      have second := next a ok
      unfold Decided at second ⊢
      rw [result_bind_of_ok f ok]
      exact second

theorem Decided.bind {first second : Option Failure} {x : Logged α} {f : α → Logged β}
    (decided : Decided first x) (next : ∀ a, Decided second (f a)) :
    Decided (first.or second) (x >>= f) :=
  decided.andThen fun a _ => next a

/-- A step that cannot fail does not matter. -/
theorem Decided.after {failure? : Option Failure} {x : Logged α} {f : α → Logged β}
    (ok : ∃ a, x.result = .ok a) (next : ∀ a, Decided failure? (f a)) :
    Decided failure? (x >>= f) := by
  have decided := (decided_none.mpr ok).bind next
  rwa [Option.none_or] at decided

theorem Decided.mapFailure {failure? : Option Failure} {x : Logged α} (decided : Decided failure? x)
    (g : Failure → Failure) : Decided (failure?.map g) (x.mapFailure g) := by
  cases failure? with
  | some e =>
      change (x.mapFailure g).result = .error (g e)
      rw [result_mapFailure, show x.result = .error e from decided]
      rfl
  | none =>
      obtain ⟨a, ok⟩ := decided
      refine ⟨a, ?_⟩
      rw [result_mapFailure, ok]
      rfl

end

end Logged

/-! ### The columns -/

namespace Row

/-- The failure that an unknown code in a column that is consulted is. -/
def faultFailure? (row : Row) (capabilities : Capabilities) (c : CodeColumn) : Option Failure :=
  (row.fault? capabilities c).map c.failure

/-- The failure that the first unknown code in some columns is. -/
def firstFault? (row : Row) (capabilities : Capabilities) (columns : List CodeColumn) :
    Option Failure :=
  columns.findSome? (row.faultFailure? capabilities)

@[simp] theorem firstFault?_nil (row : Row) (capabilities : Capabilities) :
    row.firstFault? capabilities [] = none := rfl

theorem firstFault?_cons (row : Row) (capabilities : Capabilities) (c : CodeColumn)
    (rest : List CodeColumn) :
    row.firstFault? capabilities (c :: rest) =
      (row.faultFailure? capabilities c).or (row.firstFault? capabilities rest) :=
  findSome?_cons_or _ c rest

theorem firstFault?_append (row : Row) (capabilities : Capabilities) (first second : List CodeColumn) :
    row.firstFault? capabilities (first ++ second) =
      (row.firstFault? capabilities first).or (row.firstFault? capabilities second) :=
  List.findSome?_append

section
variable {row : Row} (spellable : row.Spellable) (capabilities : Capabilities)
include spellable

/-- A code column that is read on a condition fails if it is consulted and holds an unknown code. -/
theorem decided_code? {α : Type} [CatalogCode α] (c : CodeColumn) (fallback : Option α)
    (condition : Bool) (consulted : condition = row.consults capabilities c)
    (codes : c.codes = CatalogCode.codes α) (table : c.table = CatalogCode.title α) :
    Logged.Decided (row.faultFailure? capabilities c)
      (Logged.onlyIf condition (row.code? .strict c.name c.padded fallback)) := by
  subst consulted
  unfold faultFailure? fault?
  cases row.consults capabilities c with
  | false => exact .pure none
  | true =>
      have result := spellable.result_code? c.name c.padded fallback
      rw [← codes] at result
      change Logged.Decided ((row.unknownCode? c).map c.failure) _
      rw [unknownCode?, code]
      cases unknown : CatalogCode.unknownText? c.codes (row.codeText c.name c.padded) with
      | some text =>
          simp only [unknown, CatalogCode.unknown_text, ← table] at result
          exact result
      | none =>
          rw [unknown] at result
          exact ⟨_, result⟩

theorem decided_classification :
    Logged.Decided (row.firstFault? capabilities [.kind, .ownerType, .functionSubtype])
      (row.classification capabilities .strict) := by
  simp only [firstFault?_cons, firstFault?_nil]
  refine (decided_code? spellable capabilities .kind none true rfl rfl rfl).andThen fun kind read => ?_
  refine (decided_code? spellable capabilities .ownerType none _ rfl rfl rfl).bind fun ownerType => ?_
  have dialect : Reads True (.ofExcept (row.text? "DIALECT")) := reads_text? (fun _ => spellable) _
  refine .after (Reads.ok (dialect.onlyIf _) trivial) fun dialect => ?_
  -- whether the subtype is consulted depends on what the kind was read as
  have consulted := consults_functionSubtype capabilities read
  refine (decided_code? spellable capabilities .functionSubtype none _ consulted rfl rfl).bind
    fun functionSubtype => ?_
  exact .pure _

theorem decided_provenance :
    Logged.Decided (row.firstFault? capabilities [.origin, .language, .validity])
      (row.provenance .strict) := by
  simp only [firstFault?_cons, firstFault?_nil]
  refine (decided_code? spellable capabilities .origin none true rfl rfl rfl).bind fun origin => ?_
  refine (decided_code? spellable capabilities .language none true rfl rfl rfl).bind fun language => ?_
  refine (decided_code? spellable capabilities .validity (some .unknown) true rfl rfl rfl).bind
    fun validity => ?_
  exact .pure _

/-- Strictly a routine whose name and owner are known fails for its first unknown code only. -/
theorem decided_readRoutine (name qualifiedName : FilledText) (container : Container)
    (schema : Schema) : Logged.Decided (row.firstFault? capabilities CodeColumn.inOrder)
      (readRoutine row name qualifiedName container schema capabilities .strict) := by
  change Logged.Decided (row.firstFault? capabilities
    ([.kind, .ownerType, .functionSubtype] ++ [.origin, .language, .validity])) _
  rw [firstFault?_append]
  unfold readRoutine
  refine (decided_classification spellable capabilities).bind fun classification => ?_
  have short : True → row.Spellable := fun _ => spellable
  refine .after ((reads_readJavaBinding short).ok trivial) fun javaBinding => ?_
  refine .after ((reads_text? short _).ok trivial) fun specificName => ?_
  refine .after ((reads_integer? short _).ok trivial) fun routineId => ?_
  have provenance := decided_provenance spellable capabilities
  rw [← Option.or_none (o := row.firstFault? capabilities [.origin, .language, .validity])]
  refine provenance.bind fun provenance => ?_
  refine .after ((reads_details short).ok trivial) fun details => ?_
  exact .pure _

end

end Row

end Syscat
