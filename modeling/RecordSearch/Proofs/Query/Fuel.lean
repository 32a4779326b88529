import RecordSearch.Proofs.Query.Progress

/-!
Enough fuel gives one reading. The readings with enough of it satisfy the equations of the grammar, in which
no fuel is left.
-/

namespace RecordSearch.Lucene

/-- One step more changes nothing where the fuel is enough. Each reading needs some steps more than those
that it begins with, and six lead to the next character. -/
structure Settles (fuel : Nat) : Prop where
  ors : ∀ field s, 6 * s.length + 4 ≤ fuel → ors? (fuel + 1) field s = ors? fuel field s
  ands : ∀ field s, 6 * s.length + 3 ≤ fuel → ands? (fuel + 1) field s = ands? fuel field s
  unary : ∀ field s, 6 * s.length + 2 ≤ fuel → unary? (fuel + 1) field s = unary? fuel field s
  group : ∀ field s, 6 * s.length + 1 ≤ fuel → group? (fuel + 1) field s = group? fuel field s
  fieldClause : ∀ s, 6 * s.length + 1 ≤ fuel → fieldClause? (fuel + 1) s = fieldClause? fuel s

namespace Settles

variable {fuel : Nat}

theorem ors_succ (settles : Settles fuel) (field : Option String) (s : List Char)
    (enough : 6 * s.length + 4 ≤ fuel + 1) : ors? (fuel + 2) field s = ors? (fuel + 1) field s := by
  unfold ors?
  rw [settles.ands field s (by omega)]
  split
  · rfl
  · rename_i clauses rest first
    have shorter := (shortens fuel).ands first
    cases joined : word? orWords (skip rest) with
    | none => rfl
    | some next =>
        have word := length_word?_le joined
        have blanks := length_skip_le rest
        have blanksNext := length_skip_le next
        simp only [settles.ors field (skip next) (by omega)]

theorem ands_succ (settles : Settles fuel) (field : Option String) (s : List Char)
    (enough : 6 * s.length + 3 ≤ fuel + 1) : ands? (fuel + 2) field s = ands? (fuel + 1) field s := by
  unfold ands?
  rw [settles.unary field s (by omega)]
  split
  · rfl
  · rename_i clause rest first
    have shorter := (shortens fuel).unary first
    have blanks := length_skip_le rest
    cases joined : word? andWords (skip rest) with
    | none => simp only [settles.ands field (skip rest) (by omega)]
    | some next =>
        have word := length_word?_le joined
        have blanksNext := length_skip_le next
        simp only [settles.ands field (skip next) (by omega)]

theorem unary_succ (settles : Settles fuel) (field : Option String) (s : List Char)
    (enough : 6 * s.length + 2 ≤ fuel + 1) : unary? (fuel + 2) field s = unary? (fuel + 1) field s := by
  unfold unary?
  rw [settles.group field s (by omega), settles.fieldClause s (by omega)]
  cases word : word? notWords s with
  | none => rfl
  | some rest =>
      obtain ⟨not, present, rfl, -⟩ := eq_of_word? word
      have letters : not.length = 3 := by
        rw [List.mem_singleton.1 present]
        rfl
      have blanks := length_skip_le rest
      rw [List.length_append] at enough
      simp only [settles.unary field (skip rest) (by omega)]

theorem group_succ (settles : Settles fuel) (field : Option String) (s : List Char)
    (enough : 6 * s.length + 1 ≤ fuel + 1) : group? (fuel + 2) field s = group? (fuel + 1) field s := by
  unfold group?
  split
  · rename_i inside
    have blanks := length_skip_le inside
    rw [List.length_cons] at enough
    rw [settles.ors field (skip inside) (by omega)]
  · rfl

theorem fieldClause_succ (settles : Settles fuel) (s : List Char)
    (enough : 6 * s.length + 1 ≤ fuel + 1) : fieldClause? (fuel + 2) s = fieldClause? (fuel + 1) s := by
  unfold fieldClause?
  split
  · rfl
  · rename_i name rest named
    have shorter := length_fieldName?_lt named
    rw [settles.group (some name) rest (by omega)]

end Settles

theorem settles (fuel : Nat) : Settles fuel := by
  induction fuel with
  | zero =>
      constructor <;> intros <;> omega
  | succ fuel ih => exact ⟨ih.ors_succ, ih.ands_succ, ih.unary_succ, ih.group_succ, ih.fieldClause_succ⟩

theorem eq_of_settled {β : Type} (read : Nat → β) {least fuel more : Nat}
    (settled : ∀ n, least ≤ n → read (n + 1) = read n) (enough : least ≤ fuel) (wide : least ≤ more) :
    read fuel = read more := by
  have stays : ∀ steps, read (least + steps) = read least := by
    intro steps
    induction steps with
    | zero => rfl
    | succ steps ih => rw [← Nat.add_assoc, settled _ (Nat.le_add_right least steps), ih]
  obtain ⟨first, rfl⟩ := Nat.exists_eq_add_of_le enough
  obtain ⟨second, rfl⟩ := Nat.exists_eq_add_of_le wide
  rw [stays, stays]

variable {field : Option String} {s : List Char} {fuel : Nat}

/-- The readings with the fuel that a whole query of this text is read with. -/
def readOrs? (field : Option String) (s : List Char) : Option (List Clause × List Char) :=
  ors? (fuelFor s) field s

def readAnds? (field : Option String) (s : List Char) : Option (List Clause × List Char) :=
  ands? (fuelFor s) field s

def readUnary? (field : Option String) (s : List Char) : Option (Clause × List Char) :=
  unary? (fuelFor s) field s

def readGroup? (field : Option String) (s : List Char) : Option (Clause × List Char) :=
  group? (fuelFor s) field s

def readField? (s : List Char) : Option (Clause × List Char) := fieldClause? (fuelFor s) s

theorem ors?_eq_readOrs? (enough : 6 * s.length + 4 ≤ fuel) : ors? fuel field s = readOrs? field s :=
  eq_of_settled (fun n => ors? n field s) (fun n => (settles n).ors field s) enough
    (by rw [fuelFor]; omega)

theorem ands?_eq_readAnds? (enough : 6 * s.length + 3 ≤ fuel) : ands? fuel field s = readAnds? field s :=
  eq_of_settled (fun n => ands? n field s) (fun n => (settles n).ands field s) enough
    (by rw [fuelFor]; omega)

theorem unary?_eq_readUnary? (enough : 6 * s.length + 2 ≤ fuel) :
    unary? fuel field s = readUnary? field s :=
  eq_of_settled (fun n => unary? n field s) (fun n => (settles n).unary field s) enough
    (by rw [fuelFor]; omega)

theorem group?_eq_readGroup? (enough : 6 * s.length + 1 ≤ fuel) :
    group? fuel field s = readGroup? field s :=
  eq_of_settled (fun n => group? n field s) (fun n => (settles n).group field s) enough
    (by rw [fuelFor]; omega)

theorem fieldClause?_eq_readField? (enough : 6 * s.length + 1 ≤ fuel) :
    fieldClause? fuel s = readField? s :=
  eq_of_settled (fun n => fieldClause? n s) (fun n => (settles n).fieldClause s) enough
    (by rw [fuelFor]; omega)

theorem readOrs?_eq (field : Option String) (s : List Char) : readOrs? field s =
    match readAnds? field s with
    | none => none
    | some (clauses, rest) =>
      match (word? orWords (skip rest)).bind fun next => readOrs? field (skip next) with
      | some (others, rest) => some (Clause.joined .and clauses :: others, rest)
      | none => some ([Clause.joined .and clauses], rest) := by
  obtain ⟨fuel, wide⟩ : ∃ fuel, fuelFor s = fuel + 1 := ⟨6 * s.length + 5, by rw [fuelFor]; omega⟩
  have enough : 6 * s.length + 5 ≤ fuel := by rw [fuelFor] at wide; omega
  rw [readOrs?, wide, ors?, ands?_eq_readAnds? (by omega)]
  cases first : readAnds? field s with
  | none => rfl
  | some reading =>
      obtain ⟨clauses, rest⟩ := reading
      have shorter := (shortens _).ands first
      cases joined : word? orWords (skip rest) with
      | none => simp [joined]
      | some next =>
          have word := length_word?_le joined
          have blanks := length_skip_le rest
          have blanksNext := length_skip_le next
          have inner : ors? fuel field (skip next) = readOrs? field (skip next) :=
            ors?_eq_readOrs? (by omega)
          cases others : readOrs? field (skip next) with
          | none => simp only [joined, Option.bind_some, inner, others]
          | some reading => simp only [joined, Option.bind_some, inner, others]

theorem readAnds?_eq (field : Option String) (s : List Char) : readAnds? field s =
    match readUnary? field s with
    | none => none
    | some (clause, rest) =>
      match readAnds? field (((word? andWords (skip rest)).map skip).getD (skip rest)) with
      | some (others, rest) => some (clause :: others, rest)
      | none => some ([clause], rest) := by
  obtain ⟨fuel, wide⟩ : ∃ fuel, fuelFor s = fuel + 1 := ⟨6 * s.length + 5, by rw [fuelFor]; omega⟩
  have enough : 6 * s.length + 5 ≤ fuel := by rw [fuelFor] at wide; omega
  rw [readAnds?, wide, ands?, unary?_eq_readUnary? (by omega)]
  cases first : readUnary? field s with
  | none => rfl
  | some reading =>
      obtain ⟨clause, rest⟩ := reading
      have shorter := (shortens _).unary first
      have blanks := length_skip_le rest
      cases joined : word? andWords (skip rest) with
      | none =>
          have inner : ands? fuel field (skip rest) = readAnds? field (skip rest) :=
            ands?_eq_readAnds? (by omega)
          cases others : readAnds? field (skip rest) with
          | none => simp only [joined, Option.map_none, Option.getD_none, inner, others]
          | some reading => simp only [joined, Option.map_none, Option.getD_none, inner, others]
      | some next =>
          have word := length_word?_le joined
          have blanksNext := length_skip_le next
          have inner : ands? fuel field (skip next) = readAnds? field (skip next) :=
            ands?_eq_readAnds? (by omega)
          cases others : readAnds? field (skip next) with
          | none => simp only [joined, Option.map_some, Option.getD_some, inner, others]
          | some reading => simp only [joined, Option.map_some, Option.getD_some, inner, others]

def readOperand? (field : Option String) (s : List Char) : Option (Clause × List Char) :=
  orElse (readGroup? field s) fun _ =>
  orElse (range? field s) fun _ =>
  orElse (phrase? field s) fun _ => term? field s

theorem readUnary?_eq (field : Option String) (s : List Char) : readUnary? field s =
    orElse ((word? notWords s).bind fun rest =>
      (readUnary? field (skip rest)).map fun reading => (Clause.not reading.1, reading.2)) fun _ =>
    orElse (everything? s) fun _ =>
    orElse (readGroup? field s) fun _ =>
    orElse (readField? s) fun _ =>
    orElse (range? field s) fun _ =>
    orElse (phrase? field s) fun _ => term? field s := by
  obtain ⟨fuel, wide⟩ : ∃ fuel, fuelFor s = fuel + 1 := ⟨6 * s.length + 5, by rw [fuelFor]; omega⟩
  have enough : 6 * s.length + 5 ≤ fuel := by rw [fuelFor] at wide; omega
  rw [readUnary?, wide, unary?, group?_eq_readGroup? (by omega), fieldClause?_eq_readField? (by omega)]
  cases word : word? notWords s with
  | none => rfl
  | some rest =>
      have before := length_word?_le word
      have blanks := length_skip_le rest
      rw [Option.bind_some]
      have inner : unary? fuel field (skip rest) = readUnary? field (skip rest) :=
        unary?_eq_readUnary? (by omega)
      simp only [inner]

theorem readGroup?_eq (field : Option String) (rest : List Char) : readGroup? field ('(' :: rest) =
    match readOrs? field (skip rest) with
    | none => none
    | some (clauses, rest) =>
      match skip rest with
      | ')' :: rest =>
        some ((Clause.joined .or clauses).boosted (boost (skip rest)).1, (boost (skip rest)).2)
      | _ => none := by
  obtain ⟨fuel, wide⟩ : ∃ fuel, fuelFor ('(' :: rest) = fuel + 1 :=
    ⟨6 * rest.length + 11, by rw [fuelFor, List.length_cons]; omega⟩
  have enough : 6 * rest.length + 10 ≤ fuel := by
    rw [fuelFor, List.length_cons] at wide
    omega
  have blanks := length_skip_le rest
  have inner : ors? fuel field (skip rest) = readOrs? field (skip rest) := ors?_eq_readOrs? (by omega)
  rw [readGroup?, wide, ← inner]
  rfl

theorem readGroup?_of_head_ne (field : Option String) {s : List Char}
    (other : s.head? ≠ some '(') : readGroup? field s = none := by
  rw [readGroup?, show fuelFor s = 6 * s.length + 5 + 1 by rw [fuelFor]; omega, group?]
  intro rest start
  rw [start] at other
  exact other rfl

theorem readField?_eq (s : List Char) : readField? s =
    (fieldName? s).bind fun named => readOperand? (some named.1) named.2 := by
  obtain ⟨fuel, wide⟩ : ∃ fuel, fuelFor s = fuel + 1 := ⟨6 * s.length + 5, by rw [fuelFor]; omega⟩
  have enough : 6 * s.length + 5 ≤ fuel := by rw [fuelFor] at wide; omega
  rw [readField?, wide, fieldClause?]
  cases named : fieldName? s with
  | none => rfl
  | some found =>
      obtain ⟨name, rest⟩ := found
      have shorter := length_fieldName?_lt named
      have inner : group? fuel (some name) rest = readGroup? (some name) rest :=
        group?_eq_readGroup? (by omega)
      simp only [inner]
      rfl

theorem readChars?_eq (s : List Char) : readChars? s =
    match readOrs? none (skip s) with
    | some (clauses, rest) =>
      if (skip rest).isEmpty then some (Clause.joined .or clauses) else none
    | none => if (skip s).isEmpty then some .nothing else none := rfl

end RecordSearch.Lucene
