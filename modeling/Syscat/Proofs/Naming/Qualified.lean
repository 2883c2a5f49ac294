/-
Module: Syscat.Proofs.Naming.Qualified
Purpose: A qualified name says which names it was made of. An identifier that stands in front of a
  point or at the end of a text can be read back, whatever characters its name has, so points and
  delimiters inside a name are never taken for those that join and enclose names.
Main exports: readIdentifier, readIdentifier_quoteIdentifier, qualifiedName_injective,
  Owner.qualify_eq_iff
-/
import Syscat.Proofs.Naming.Identifier

namespace Syscat

/-! ### Reading an identifier back -/

/-- Read the rest of a delimited identifier: its name, and what stands behind the delimiter that closes
it. -/
def readDelimited : List Char → List Char × List Char
  | [] => ([], [])
  | [c] => if c = delimiter then ([], []) else ([c], [])
  | c :: d :: rest =>
      if c = delimiter then
        if d = delimiter then (delimiter :: (readDelimited rest).1, (readDelimited rest).2)
        else ([], d :: rest)
      else (c :: (readDelimited (d :: rest)).1, (readDelimited (d :: rest)).2)

/-- Read an identifier: its name, and what stands behind it. One without delimiters goes on to the next
point. -/
def readIdentifier (s : List Char) : List Char × List Char :=
  if s.head? = some delimiter then readDelimited s.tail
  else (s.takeWhile (· ≠ '.'), s.dropWhile (· ≠ '.'))

/-- What can stand behind an identifier: nothing, or a point with more behind it. -/
def EndsIdentifier (rest : List Char) : Prop :=
  rest = [] ∨ ∃ more, rest = '.' :: more

section
variable {s rest : List Char} {c : Char}

theorem EndsIdentifier.point (more : List Char) : EndsIdentifier ('.' :: more) :=
  Or.inr ⟨more, rfl⟩

/-- A character other than a delimiter belongs to the name. -/
theorem readDelimited_cons (other : c ≠ delimiter) (s : List Char) :
    readDelimited (c :: s) = (c :: (readDelimited s).1, (readDelimited s).2) := by
  cases s with
  | nil => simp [readDelimited, other]
  | cons d s => simp [readDelimited, other]

/-- A delimiter closes the identifier if no other one follows it. -/
theorem readDelimited_close (ends : EndsIdentifier rest) :
    readDelimited (delimiter :: rest) = ([], rest) := by
  rcases ends with rfl | ⟨more, rfl⟩
  · simp [readDelimited]
  · simp [readDelimited, delimiter]

/-- A name with its delimiters doubled is read back up to the delimiter behind it. -/
theorem readDelimited_doubleDelimiters (s : List Char) (ends : EndsIdentifier rest) :
    readDelimited (doubleDelimiters s ++ delimiter :: rest) = (s, rest) := by
  induction s with
  | nil => exact readDelimited_close ends
  | cons c s ih =>
      by_cases isDelimiter : c = delimiter
      · rw [isDelimiter, doubleDelimiters_delimiter, List.cons_append, List.cons_append]
        simp [readDelimited, ih]
      · rw [doubleDelimiters_other isDelimiter, List.cons_append, readDelimited_cons isDelimiter, ih]

/-! ### Ordinary identifiers -/

theorem mem_withoutLineEnd (inside : c ∈ s) : c = '\n' ∨ c ∈ withoutLineEnd s := by
  unfold withoutLineEnd
  split
  · next lineEnd =>
      obtain ⟨front, rfl⟩ := List.getLast?_eq_some_iff.mp (beq_iff_eq.mp lineEnd)
      simpa [or_comm] using inside
  · exact Or.inr inside

/-- A character of an ordinary identifier is one that identifiers have, or the line end behind it. -/
theorem mem_ordinary (ordinary : isOrdinaryIdentifier s = true) (inside : c ∈ s) :
    c = '\n' ∨ continuesIdentifier c = true := by
  cases s with
  | nil => simp at inside
  | cons d s =>
      rw [isOrdinaryIdentifier, Bool.and_eq_true, List.all_eq_true] at ordinary
      rcases List.mem_cons.mp inside with rfl | behind
      · simp [continuesIdentifier, ordinary.1]
      · rcases mem_withoutLineEnd behind with lineEnd | kept
        · exact Or.inl lineEnd
        · exact Or.inr (ordinary.2 c kept)

theorem point_not_mem_ordinary (ordinary : isOrdinaryIdentifier s = true) : '.' ∉ s := by
  intro inside
  rcases mem_ordinary ordinary inside with lineEnd | continues
  · cases lineEnd
  · cases continues

theorem head_ordinary (ordinary : isOrdinaryIdentifier s = true) (rest : List Char) :
    (s ++ rest).head? ≠ some delimiter := by
  cases s with
  | nil => cases ordinary
  | cons c s =>
      rw [isOrdinaryIdentifier, Bool.and_eq_true] at ordinary
      intro delimited
      rw [List.cons_append, List.head?_cons, Option.some.injEq] at delimited
      rw [delimited] at ordinary
      cases ordinary.1

/-! ### Qualified names -/

/-- An identifier is read back, and what stands behind it is left. -/
theorem readIdentifier_quoteIdentifier (s : List Char) (ends : EndsIdentifier rest) :
    readIdentifier (quoteIdentifier s ++ rest) = (s, rest) := by
  rw [quoteIdentifier]
  split
  · next ordinary =>
      have noPoint : ∀ c ∈ s, decide (c ≠ '.') = true := by
        intro c inside
        apply decide_eq_true
        rintro rfl
        exact point_not_mem_ordinary ordinary inside
      rw [readIdentifier, if_neg (head_ordinary ordinary rest), List.takeWhile_append_of_pos noPoint,
        List.dropWhile_append_of_pos noPoint]
      rcases ends with rfl | ⟨more, rfl⟩
      · simp
      · simp
  · rw [readIdentifier, List.cons_append, List.append_assoc, List.singleton_append]
    simpa using readDelimited_doubleDelimiters s ends

/-- Two texts that begin with identifiers are the same only if the names are, and what stands behind. -/
theorem quoteIdentifier_append_inj {s' rest' : List Char} (ends : EndsIdentifier rest)
    (ends' : EndsIdentifier rest') (same : quoteIdentifier s ++ rest = quoteIdentifier s' ++ rest') :
    s = s' ∧ rest = rest' := by
  have read := readIdentifier_quoteIdentifier s ends
  rw [same, readIdentifier_quoteIdentifier s' ends'] at read
  cases read
  exact ⟨rfl, rfl⟩

/-- The identifiers of some names, joined by points. -/
def joinedIdentifiers (names : List (List Char)) : List Char :=
  List.intercalate ['.'] (names.map quoteIdentifier)

/-- What stands behind the first one of joined identifiers, given the names of the others. -/
def joinedBehind : List (List Char) → List Char
  | [] => []
  | next :: names => '.' :: joinedIdentifiers (next :: names)

theorem joinedIdentifiers_cons (s : List Char) (names : List (List Char)) :
    joinedIdentifiers (s :: names) = quoteIdentifier s ++ joinedBehind names := by
  cases names with
  | nil => simp [joinedIdentifiers, joinedBehind]
  | cons next names => simp [joinedIdentifiers, joinedBehind, List.intercalate_cons_cons]

theorem endsIdentifier_joinedBehind (names : List (List Char)) :
    EndsIdentifier (joinedBehind names) := by
  cases names with
  | nil => exact Or.inl rfl
  | cons next names => exact .point _

/-- Joined identifiers determine the names. The induction is on the names; the first identifier is read
off both sides. -/
theorem joinedIdentifiers_injective {names : List (List Char)} : ∀ {names' : List (List Char)},
    names ≠ [] → names' ≠ [] → joinedIdentifiers names = joinedIdentifiers names' → names = names' := by
  induction names with
  | nil => exact fun filled => absurd rfl filled
  | cons s names ih =>
      intro names' _ filled' same
      cases names' with
      | nil => exact absurd rfl filled'
      | cons s' names' =>
          rw [joinedIdentifiers_cons, joinedIdentifiers_cons] at same
          obtain ⟨rfl, behind⟩ := quoteIdentifier_append_inj (endsIdentifier_joinedBehind names)
            (endsIdentifier_joinedBehind names') same
          cases names with
          | nil =>
              cases names' with
              | nil => rfl
              | cons next' names' => cases behind
          | cons next names =>
              cases names' with
              | nil => cases behind
              | cons next' names' =>
                  rw [ih (by simp) (by simp) (List.cons.inj behind).2]

end

theorem toList_qualifiedName (chain : List String) :
    (qualifiedName chain).toList = joinedIdentifiers (chain.map String.toList) := by
  simp [qualifiedName, joinedIdentifiers, quotedIdentifier, Function.comp_def]

/-- A qualified name determines the chain of names that it was made of. -/
theorem qualifiedName_injective {chain chain' : List String} (filled : chain ≠ []) (filled' : chain' ≠ [])
    (same : qualifiedName chain = qualifiedName chain') : chain = chain' := by
  have letters := congrArg String.toList same
  rw [toList_qualifiedName, toList_qualifiedName] at letters
  have names := joinedIdentifiers_injective (by simpa using filled) (by simpa using filled') letters
  exact (List.map_inj_right fun _ _ => String.toList_inj.mp).mp names

/-! ### Owners -/

/-- A container with a chain of names is a schema, which goes by its own name alone, or a module, which
goes by that of its schema and its own. -/
theorem Container.chain_cases {c : Container} {chain : List String} (found : c.chain? = some chain) :
    (∃ name, c = .schema ⟨name⟩ ∧ chain = [name.val]) ∨
      ∃ name schema, c = .module ⟨name, some ⟨schema⟩⟩ ∧ chain = [schema.val, name.val] := by
  cases c with
  | schema s =>
      cases found
      exact Or.inl ⟨s.name, rfl, rfl⟩
  | module m =>
      obtain ⟨name, schema⟩ := m
      cases schema with
      | none => cases found
      | some s =>
          cases found
          exact Or.inr ⟨name, s.name, rfl, rfl⟩

/-- Containers with the same chain of names are the same. -/
theorem Container.eq_of_chain {c c' : Container} {chain : List String} (found : c.chain? = some chain)
    (found' : c'.chain? = some chain) : c = c' := by
  rcases chain_cases found with ⟨name, rfl, rfl⟩ | ⟨name, schema, rfl, rfl⟩
  · rcases chain_cases found' with ⟨name', rfl, same⟩ | ⟨_, _, _, same⟩
    · rw [Subtype.ext (List.cons.inj same).1]
    · cases (List.cons.inj same).2
  · rcases chain_cases found' with ⟨_, _, same⟩ | ⟨name', schema', rfl, same⟩
    · cases (List.cons.inj same).2
    · obtain ⟨schemas, names⟩ := List.cons.inj same
      rw [Subtype.ext schemas, Subtype.ext (List.cons.inj names).1]

/-- A container that belongs to a schema has a chain of names, and qualifies a routine by it. -/
theorem Container.qualify_of_resolvable {c : Container} (resolvable : c.schema?.isSome)
    (routine : String) : ∃ chain, c.chain? = some chain ∧
      (Owner.container c).qualify (.text routine) = .ok (qualifiedName (chain ++ [routine])) := by
  have found : ∃ chain, c.chain? = some chain := by
    cases c with
    | schema s => exact ⟨_, rfl⟩
    | module m =>
        obtain ⟨s, same⟩ := Option.isSome_iff_exists.mp resolvable
        rw [Container.schema?] at same
        exact ⟨[s.name.val, m.name.val], by simp [Container.chain?, same]⟩
  obtain ⟨chain, found⟩ := found
  have named : (Owner.container c).chain = .ok chain := by
    rw [Owner.chain, Owner.chain?, found]
  refine ⟨chain, found, ?_⟩
  rw [Owner.qualify, named]
  rfl

/-- Routines of containers that belong to schemas have qualified names, and these are the same only if
the containers are, kind and names, and the names of the routines. -/
theorem Owner.qualify_eq_iff (c₁ c₂ : Container) (n₁ n₂ : String) (resolvable₁ : c₁.schema?.isSome)
    (resolvable₂ : c₂.schema?.isSome) :
    ∃ q₁ q₂, (Owner.container c₁).qualify (.text n₁) = .ok q₁ ∧
      (Owner.container c₂).qualify (.text n₂) = .ok q₂ ∧ (q₁ = q₂ ↔ c₁ = c₂ ∧ n₁ = n₂) := by
  obtain ⟨chain₁, found₁, qualified₁⟩ := Container.qualify_of_resolvable resolvable₁ n₁
  obtain ⟨chain₂, found₂, qualified₂⟩ := Container.qualify_of_resolvable resolvable₂ n₂
  refine ⟨_, _, qualified₁, qualified₂, ?_, ?_⟩
  · intro same
    have chains := qualifiedName_injective (by simp) (by simp) same
    obtain ⟨owners, names⟩ := List.append_inj' chains rfl
    rw [owners] at found₁
    exact ⟨Container.eq_of_chain found₁ found₂, (List.cons.inj names).1⟩
  · rintro ⟨rfl, rfl⟩
    rw [found₁] at found₂
    cases found₂
    rfl

/-- A schema whose name has a point in it and a module of a schema: a routine `C` of the one is not taken
for a routine `C` of the other. -/
theorem Owner.qualify_eq_iff_pointedSchema :
    let pointed : Container := .schema ⟨⟨"A.B", by decide⟩⟩
    let nested : Container := .module ⟨⟨"B", by decide⟩, some ⟨⟨"A", by decide⟩⟩⟩
    pointed.schema?.isSome ∧ nested.schema?.isSome ∧
      ∃ q₁ q₂, (Owner.container pointed).qualify (.text "C") = .ok q₁ ∧
        (Owner.container nested).qualify (.text "C") = .ok q₂ ∧ q₁ ≠ q₂ := by
  intro pointed nested
  obtain ⟨q₁, q₂, qualified₁, qualified₂, same_iff⟩ :=
    Owner.qualify_eq_iff pointed nested "C" "C" rfl rfl
  have apart : pointed ≠ nested := by simp [pointed, nested]
  exact ⟨rfl, rfl, q₁, q₂, qualified₁, qualified₂, fun same => apart (same_iff.mp same).1⟩

end Syscat
