import Mathlib.Data.List.Basic
import RecordSearch.Field.Prepare
import RecordSearch.Object.Record
import RecordSearch.Proofs.Object.LeadingName

/-!
Values at the end of a path. A walk comes to an end on any graph of objects, as each round leaves less of the
path, and it reads the path name by name, unless an object leaves a part of it out.
-/

namespace RecordSearch

variable {Obj : Type} [Source Obj]

inductive Path.Reaches : Obj → List String → Obj → Prop where
  | here (o : Obj) : Reaches o [] o
  | next {o related last : Obj} {name : String} {attr : Attr Obj} {names : List String} :
      Source.attr? o name = some attr → attr.called = .object related → Reaches related names last →
        Reaches o (name :: names) last

namespace Field

/-- What a field holds of the attribute at the end of its path. -/
inductive Yields (f : Field) : Attr Obj → Value → Prop where
  | value {v : Value} : v ≠ .null → Yields f (.value v) v
  | object (o : Obj) : Yields f (.object o) (.text (Source.describe o))
  | default {v : Value} : f.default = some v → Yields f (.value .null) v
  | null : f.default = none → f.allowsNull = true → Yields f (.value .null) .null

/-- One round of a walk: how it ends, or the object that is next with the rest of the path. -/
def round (f : Field) (o : Obj) (path : List Char) : Except Error Value ⊕ Obj × List Char :=
  match Path.leadingAttr? o (String.ofList path) Path.relation with
  | none => .inl (.error (f.missingAttr o))
  | some name =>
    let rest := restOfPath name.toList path
    match (Source.attr? o name).map Attr.called with
    | none => .inl (.error (f.missingAttr o))
    | some (.value v) =>
      .inl (if v.isNull then f.ofNull o else if rest.isEmpty then .ok v else .error (f.missingAttr o))
    | some (.object related) =>
      if rest.isEmpty then .inl (.ok (.text (Source.describe related))) else .inr (related, rest)
    | some (.method _) => .inl (.error (f.missingAttr o))

def rounds (f : Field) : Nat → Obj → List Char → Option (Except Error Value)
  | 0, _, _ => none
  | n + 1, o, path =>
    match f.round o path with
    | .inl outcome => some outcome
    | .inr (related, rest) => f.rounds n related rest

section

variable {f : Field} {o related : Obj} {name : String} {path rest : List Char} {v : Value}

theorem restOfPath_append (name tail : List Char) :
    restOfPath name (name ++ tail) = (Text.dropLead? Path.relation.toList tail).getD tail := by
  rw [restOfPath, Text.dropLead?_eq_some_iff.2 rfl]

theorem restOfPath_self (name : List Char) : restOfPath name name = [] := by
  have whole := restOfPath_append name []
  rw [List.append_nil] at whole
  exact whole

theorem restOfPath_relation (name tail : List Char) :
    restOfPath name (name ++ Path.relation.toList ++ tail) = tail := by
  rw [List.append_assoc, restOfPath_append, Text.dropLead?_eq_some_iff.2 rfl]
  rfl

theorem length_restOfPath_le (name path : List Char) :
    (restOfPath name path).length + name.length ≤ path.length ∨ restOfPath name path = [] := by
  unfold restOfPath
  split
  · rename_i rest cut
    rw [Text.dropLead?_eq_some_iff] at cut
    left
    cases inner : Text.dropLead? Path.relation.toList rest with
    | none =>
        rw [cut, List.length_append, Option.getD_none]
        omega
    | some tail =>
        rw [Text.dropLead?_eq_some_iff] at inner
        rw [cut, inner, List.length_append, List.length_append, Option.getD_some]
        omega
  · exact .inr rfl

theorem length_restOfPath_lt (found : Path.leadingAttr? o (String.ofList path) Path.relation = some name)
    (left : restOfPath name.toList path ≠ []) : (restOfPath name.toList path).length < path.length := by
  rcases length_restOfPath_le name.toList path with shorter | none
  · by_cases empty : name = ""
    · -- An empty name takes nothing off the path, but the separator behind it does.
      rw [empty] at found left ⊢
      rcases Path.eq_of_leadingAttr?_empty found with nothing | ⟨rest, whole⟩
      · rw [String.ofList_eq_empty_iff] at nothing
        rw [nothing] at left
        exact absurd (restOfPath_self []) left
      · have text : path = [] ++ Path.relation.toList ++ rest.toList := by
          rw [← String.toList_ofList (l := path), whole, String.toList_append, List.nil_append]
        have two : Path.relation.toList.length = 2 := by decide
        have behind := restOfPath_relation [] rest.toList
        rw [← text] at behind
        change (restOfPath [] path).length < _
        rw [behind, text, List.length_append, List.length_append, two]
        omega
    · have some : 0 < name.toList.length := by
        rw [List.length_pos_iff, ne_eq, String.toList_eq_nil_iff]
        exact empty
      omega
  · exact absurd none left

theorem round_shorter (goes : f.round o path = .inr (related, rest)) : rest.length < path.length := by
  unfold round at goes
  split at goes
  · cases goes
  · rename_i name found
    simp only at goes
    split at goes
    · cases goes
    · cases goes
    · split at goes
      · cases goes
      · rename_i left
        cases goes
        exact length_restOfPath_lt found fun none => left (List.isEmpty_iff.2 none)
    · cases goes

theorem walk_eq (f : Field) (o : Obj) (path : List Char) :
    f.walk o path = match f.round o path with
      | .inl outcome => outcome
      | .inr (related, rest) => f.walk related rest := by
  rw [walk]
  unfold round
  cases found : Path.leadingAttr? o (String.ofList path) Path.relation with
  | none => rfl
  | some name =>
      simp only
      cases (Source.attr? o name).map Attr.called with
      | none => rfl
      | some attr =>
          cases attr with
          | value v => rfl
          | method result => rfl
          | object related =>
              by_cases left : restOfPath name.toList path = []
              · simp [left]
              · simp [left, length_restOfPath_lt found left]

/-- As many rounds as the path has characters, and one more, are enough. -/
theorem rounds_eq {n : Nat} (enough : path.length < n) : f.rounds n o path = some (f.walk o path) := by
  induction n generalizing o path with
  | zero => exact absurd enough (Nat.not_lt_zero _)
  | succ n ih =>
      rw [rounds, walk_eq]
      cases step : f.round o path with
      | inl outcome => rfl
      | inr onward =>
          obtain ⟨related, rest⟩ := onward
          exact ih (Nat.lt_of_lt_of_le (round_shorter step) (Nat.le_of_lt_succ enough))

theorem yields_of_ofNull (given : f.ofNull o = .ok v) : f.Yields (.value .null : Attr Obj) v := by
  unfold ofNull at given
  split at given
  · rename_i stands
    cases given
    exact .default stands
  · rename_i none
    split at given
    · rename_i allowed
      cases given
      exact .null none allowed
    · cases given

end

/-- The value is that of the attribute that the path names. Behind the name of a null value the rest of the path
is not read; behind any other name only a separator may stand. -/
def EndsAt (f : Field) (o : Obj) (path : String) (v : Value) : Prop :=
  ∃ name attr rest, path = name ++ rest ∧ Source.attr? o name = some attr ∧ f.Yields attr.called v ∧
    (rest = "" ∨ rest = Path.relation ∨
      attr.called = .value .null ∧ Path.relation.toList <+: rest.toList)

def Fronts (name path : String) (rest : List Char) : Prop :=
  path = name ∧ rest = [] ∨ ∃ behind, path = name ++ (Path.relation ++ behind) ∧ rest = behind.toList

section

variable {f : Field} {o : Obj} {attr : Attr Obj} {name path : String} {rest : List Char} {v : Value}

theorem leavesOut_or_fronts (found : Path.leadingAttr? o path Path.relation = some name) :
    Path.LeavesOut o path ∨ Fronts name path (restOfPath name.toList path.toList) := by
  rcases Path.leavesOut_or_front found with leaves | rfl | ⟨behind, rfl⟩
  · exact .inl leaves
  · exact .inr (.inl ⟨rfl, restOfPath_self _⟩)
  · refine .inr (.inr ⟨behind, String.append_assoc, ?_⟩)
    rw [String.toList_append, String.toList_append]
    exact restOfPath_relation _ _

/-- A walk that reads the name to its end, or finds null, ends there. -/
theorem Fronts.endsAt (fronts : Fronts name path rest) (there : Source.attr? o name = some attr)
    (yields : f.Yields attr.called v) (read : rest = [] ∨ attr.called = .value .null) :
    f.EndsAt o path v := by
  rcases fronts with ⟨whole, -⟩ | ⟨behind, whole, left⟩
  · exact ⟨name, attr, "", by rw [whole, String.append_empty], there, yields, .inl rfl⟩
  · refine ⟨name, attr, Path.relation ++ behind, whole, there, yields, .inr ?_⟩
    rcases read with none | null
    · rw [left, String.toList_eq_nil_iff] at none
      rw [none, String.append_empty]
      exact .inl rfl
    · rw [String.toList_append]
      exact .inr ⟨null, List.prefix_append _ _⟩

theorem endsAt_of_round (ended : f.round o path.toList = .inl (.ok v)) :
    Path.LeavesOut o path ∨ f.EndsAt o path v := by
  unfold round at ended
  rw [String.ofList_toList] at ended
  split at ended
  · cases ended
  · rename_i name found
    obtain ⟨attr, there⟩ := Option.isSome_iff_exists.1 (Path.exists_kept Path.relation_ne_empty found).1
    simp only [there, Option.map_some] at ended
    rcases leavesOut_or_fronts found with leaves | fronts
    · exact .inl leaves
    · right
      cases called : attr.called with
      | value w =>
          simp only [called, Sum.inl.injEq] at ended
          by_cases null : w = .null
          · -- null ends the walk, whatever is left of the path
            rw [null] at called ended
            have yields : f.Yields attr.called v := called ▸ yields_of_ofNull ended
            exact fronts.endsAt there yields (.inr called)
          · have notNull : w.isNull = false := by cases w <;> first | rfl | exact absurd rfl null
            rw [notNull, if_neg Bool.false_ne_true] at ended
            split at ended
            · rename_i none
              cases ended
              have yields : f.Yields attr.called v := called ▸ .value null
              exact fronts.endsAt there yields (.inl (List.isEmpty_iff.1 none))
            · cases ended
      | object related =>
          simp only [called] at ended
          split at ended
          · rename_i none
            cases ended
            have yields : f.Yields attr.called (.text (Source.describe related)) := called ▸ .object related
            exact fronts.endsAt there yields (.inl (List.isEmpty_iff.1 none))
          · cases ended
      | method inner =>
          simp only [called] at ended
          cases ended

theorem fronts_of_round {related : Obj} (goes : f.round o path.toList = .inr (related, rest)) :
    Path.LeavesOut o path ∨ ∃ name attr, path = name ++ Path.relation ++ String.ofList rest ∧
      Source.attr? o name = some attr ∧ attr.called = .object related := by
  unfold round at goes
  rw [String.ofList_toList] at goes
  split at goes
  · cases goes
  · rename_i name found
    obtain ⟨attr, there⟩ := Option.isSome_iff_exists.1 (Path.exists_kept Path.relation_ne_empty found).1
    simp only [there, Option.map_some] at goes
    rcases leavesOut_or_fronts found with leaves | fronts
    · exact .inl leaves
    · right
      cases called : attr.called with
      | value w =>
          simp only [called] at goes
          cases goes
      | object next =>
          simp only [called] at goes
          split at goes
          · cases goes
          · rename_i some
            cases goes
            rcases fronts with ⟨-, left⟩ | ⟨behind, whole, left⟩
            · rw [left] at some
              exact absurd rfl some
            · refine ⟨name, attr, ?_, there, called⟩
              rw [left, String.ofList_toList, String.append_assoc]
              exact whole
      | method inner =>
          simp only [called] at goes
          cases goes

/-- A walk that ends with a value has read the path name by name, to an object that the rest of it names an
attribute of, or that leaves a part of it out. -/
theorem endsAt_of_walk (result : f.walk o path.toList = .ok v) :
    ∃ names last tail, Path.Reaches o names last ∧
      path = String.join (names.map fun name => name ++ Path.relation) ++ tail ∧
      (Path.LeavesOut last tail ∨ f.EndsAt last tail v) := by
  -- The path gets shorter with each round that goes on.
  induction size : path.toList.length using Nat.strongRecOn generalizing o path with
  | ind n ih =>
    rw [walk_eq] at result
    cases step : f.round o path.toList with
    | inl outcome =>
        rw [step] at result
        cases result
        exact ⟨[], o, path, .here o, by simp, endsAt_of_round step⟩
    | inr onward =>
        obtain ⟨related, rest⟩ := onward
        rw [step] at result
        rcases fronts_of_round step with leaves | ⟨name, attr, whole, there, called⟩
        · exact ⟨[], o, path, .here o, by simp, .inl leaves⟩
        · have shorter : (String.ofList rest).toList.length < n := by
            rw [String.toList_ofList, ← size]
            exact round_shorter step
          rw [← String.toList_ofList (l := rest)] at result
          obtain ⟨names, last, tail, reaches, text, ends⟩ := ih _ shorter result rfl
          refine ⟨name :: names, last, tail, .next there called reaches, ?_, ends⟩
          rw [whole, text, List.map_cons, String.join_cons]
          simp only [String.append_assoc]

end

/-- A field reads an attribute path to the end of it, on any graph of objects and in a bounded number of
rounds. The value that it gives stands at the end of the path, of which every part was read, unless an object
on the way leaves a part of it out. -/
theorem prepareRaw_along_path (f : Field) (o : Obj) (renderer : Option (Renderer Obj)) (path : String)
    (plain : f.useTemplate = false) (given : f.attrPath = some path) :
    f.rounds (path.toList.length + 1) o path.toList = some (f.prepareRaw o renderer) ∧
    ∀ v, f.prepareRaw o renderer = .ok v → ∃ names last tail, Path.Reaches o names last ∧
      path = String.join (names.map fun name => name ++ Path.relation) ++ tail ∧
      (Path.LeavesOut last tail ∨ f.EndsAt last tail v) := by
  have walks : f.prepareRaw o renderer = f.walk o path.toList := by
    rw [prepareRaw, plain, given, if_neg Bool.false_ne_true]
  rw [walks]
  exact ⟨rounds_eq (Nat.lt_succ_self _), fun v result => endsAt_of_walk result⟩

def floor : Record := ⟨none, none, [("number", .value (.integer 3))]⟩

def house : Record := ⟨none, none, [("floor", .object floor)]⟩

def tenant : Record := ⟨none, none, [("house", .object house)]⟩

def resident : Record := ⟨none, none, [("house", .object house), ("house__number", .value (.integer 17))]⟩

def floorNumber : Field := { ofKind .integer with attrPath := some "house__floor__number" }

theorem prepareRaw_along_path_tenant :
    floorNumber.useTemplate = false ∧ floorNumber.attrPath = some "house__floor__number" ∧
    floorNumber.prepareRaw tenant none = .ok (.integer 3) ∧
    ∃ names last tail, Path.Reaches tenant names last ∧
      "house__floor__number" = String.join (names.map fun name => name ++ Path.relation) ++ tail ∧
      (Path.LeavesOut last tail ∨ floorNumber.EndsAt last tail (.integer 3)) := by
  have three : floorNumber.prepareRaw tenant none = .ok (.integer 3) := by with_unfolding_all rfl
  obtain ⟨-, along⟩ := prepareRaw_along_path floorNumber tenant none "house__floor__number" rfl rfl
  exact ⟨rfl, rfl, three, along _ three⟩

open Record (mem_attrs_of_attr?) in
/-- The number of the house is read in place of the number of the floor. -/
theorem not_prepareRaw_along_path :
    ¬ ∀ (f : Field) (o : Record) (renderer : Option (Renderer Record)) (path : String) (v : Value),
      f.useTemplate = false → f.attrPath = some path → f.prepareRaw o renderer = .ok v →
      ∃ names last name attr rest, Path.Reaches o names last ∧
        path = String.join (names.map fun name => name ++ Path.relation) ++ (name ++ rest) ∧
        Source.attr? last name = some attr ∧ f.Yields attr.called v ∧
        (rest = "" ∨ attr.called = .value .null ∧ Path.relation.toList <+: rest.toList) := by
  intro along
  have number : floorNumber.prepareRaw resident none = .ok (.integer 17) := by with_unfolding_all rfl
  obtain ⟨names, last, name, attr, rest, reaches, text, there, yields, -⟩ :=
    along floorNumber resident none "house__floor__number" _ rfl rfl number
  have value : attr.called = .value (.integer 17) := by
    cases called : attr.called with
    | value v =>
        rw [called] at yields
        cases yields with
        | value => rfl
        | default stands => cases stands
    | object related =>
        rw [called] at yields
        cases yields
    | method inner =>
        rw [called] at yields
        cases yields
  have found := mem_attrs_of_attr? there
  cases reaches with
  | here =>
      rcases List.mem_pair.1 found with same | same
      · cases same
        cases value
      · cases same
        have front := congrArg String.toList text
        simp at front
  | next first called inHouse =>
      rcases List.mem_pair.1 (mem_attrs_of_attr? first) with same | same
      · cases same
        cases called
        cases inHouse with
        | here =>
            cases List.mem_singleton.1 found
            cases value
        | next second called onFloor =>
            cases List.mem_singleton.1 (mem_attrs_of_attr? second)
            cases called
            cases onFloor with
            | here =>
                cases List.mem_singleton.1 found
                cases value
            | next third called =>
                cases List.mem_singleton.1 (mem_attrs_of_attr? third)
                cases called
      · cases same
        cases called

end Field

end RecordSearch
