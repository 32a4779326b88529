import RecordSearch.Proofs.Index.Removal

namespace RecordSearch.ModelType

open Unicode (isWordCharacter isDigit)

def IsWord (s : String) : Prop := s ≠ "" ∧ ∀ c ∈ s.toList, isWordCharacter c = true

def IsNumber (s : String) : Prop := s ≠ "" ∧ ∀ c ∈ s.toList, isDigit c = true

/-- A type that is read from some label. -/
def IsLabelled (model : ModelType) : Prop := ∃ label, ofLabel? label = some model

variable {model other : ModelType} {pk otherPk : String}

theorem isWordCharacter_point : isWordCharacter '.' = false := by
  decide

theorem point_not_mem_of_isWord {s : String} (word : IsWord s) : '.' ∉ s.toList := by
  intro there
  have character := word.2 '.' there
  rw [isWordCharacter_point] at character
  cases character

theorem isLabelled_iff :
    model.IsLabelled ↔
      model.app ≠ "" ∧ model.name ≠ "" ∧ '.' ∉ model.app.toList ∧ '.' ∉ model.name.toList := by
  constructor
  · rintro ⟨text, read⟩
    exact (ofLabel?_eq_some_iff.1 read).2
  · intro proper
    exact ⟨model.label, ofLabel?_eq_some_iff.2 ⟨rfl, proper⟩⟩

theorem isLabelled_of_isWord (app : IsWord model.app) (name : IsWord model.name) : model.IsLabelled :=
  isLabelled_iff.2 ⟨app.1, name.1, point_not_mem_of_isWord app, point_not_mem_of_isWord name⟩

/-- An identity can be read exactly if it is made of two words and a number. -/
theorem ofIdentity?_eq_some_iff {text : String} :
    ofIdentity? text = some (model, pk) ↔
      text = model.identity pk ∧ IsWord model.app ∧ IsWord model.name ∧ IsNumber pk := by
  constructor
  · intro read
    unfold ofIdentity? at read
    split at read
    · rename_i app name key pieces
      split at read
      · rename_i proper
        cases read
        have whole := Text.intercalate_splitAll ['.'] text.toList
        rw [pieces] at whole
        simp only [Bool.and_eq_true, Bool.not_eq_true', List.isEmpty_eq_false_iff, List.all_eq_true] at proper
        obtain ⟨⟨⟨⟨⟨app, words⟩, name⟩, moreWords⟩, key⟩, digits⟩ := proper
        refine ⟨?_, ?_, ?_, ?_⟩
        · apply String.toList_inj.1
          rw [toList_identity, ← whole]
          simp [List.intercalate]
        · simpa [IsWord] using ⟨app, words⟩
        · simpa [IsWord] using ⟨name, moreWords⟩
        · simpa [IsNumber] using ⟨key, digits⟩
      · cases read
    · cases read
  · rintro ⟨rfl, app, name, key⟩
    have removable : model.isRemovable pk = true := by
      simpa [isRemovable] using ⟨⟨⟨app.2, name.2⟩, key.1⟩, key.2⟩
    obtain ⟨label, read⟩ := isLabelled_of_isWord app name
    rw [(ofLabel?_eq_some_iff.1 read).1] at read
    rw [ofIdentity?_identity (Option.isSome_of_eq_some read), if_pos removable]

/-- An identity belongs to one type and one key, whatever points the key holds. -/
theorem eq_of_identity_eq (labelled : model.IsLabelled) (otherLabelled : other.IsLabelled)
    (same : model.identity pk = other.identity otherPk) : model = other ∧ pk = otherPk := by
  obtain ⟨-, -, app, name⟩ := isLabelled_iff.1 labelled
  obtain ⟨-, -, otherApp, otherName⟩ := isLabelled_iff.1 otherLabelled
  have texts := congrArg String.toList same
  rw [toList_identity, toList_identity] at texts
  have first := congrArg (Text.splitFirst? ['.']) texts
  rw [Text.splitFirst?_append app, Text.splitFirst?_append otherApp] at first
  obtain ⟨apps, rests⟩ := Prod.mk.inj (Option.some.inj first)
  have second := congrArg (Text.splitFirst? ['.']) rests
  rw [Text.splitFirst?_append name, Text.splitFirst?_append otherName] at second
  obtain ⟨names, keys⟩ := Prod.mk.inj (Option.some.inj second)
  refine ⟨?_, String.toList_inj.1 keys⟩
  cases model
  cases other
  rw [ModelType.mk.injEq]
  exact ⟨String.toList_inj.1 apps, String.toList_inj.1 names⟩

/-- Identities are unambiguous: what is read from one writes it again and has a label of its own, what is made of
words and digits is read back, and types with labels and keys of any kind never make the same one twice. -/
theorem identity_unambiguous :
    (∀ (text : String) (model : ModelType) (pk : String), ofIdentity? text = some (model, pk) →
      model.identity pk = text ∧ ofLabel? model.label = some model) ∧
    (∀ app name pk : String, IsWord app → IsWord name → IsNumber pk →
      ofIdentity? ((⟨app, name⟩ : ModelType).identity pk) = some (⟨app, name⟩, pk)) ∧
    ∀ (model other : ModelType) (pk otherPk : String), model.IsLabelled → other.IsLabelled →
      model.identity pk = other.identity otherPk → model = other ∧ pk = otherPk := by
  refine ⟨?_, ?_, ?_⟩
  · intro text model pk read
    obtain ⟨rfl, app, name, -⟩ := ofIdentity?_eq_some_iff.1 read
    have proper := isLabelled_iff.1 (isLabelled_of_isWord app name)
    exact ⟨rfl, ofLabel?_eq_some_iff.2 ⟨rfl, proper⟩⟩
  · intro app name pk words moreWords digits
    exact ofIdentity?_eq_some_iff.2 ⟨rfl, words, moreWords, digits⟩
  · intro model other pk otherPk labelled otherLabelled same
    exact eq_of_identity_eq labelled otherLabelled same

def parcel : ModelType := ⟨"app", "parcel"⟩

theorem identity_unambiguous_parcel :
    (parcel.identity "12" = "app.parcel.12" ∧ ofLabel? parcel.label = some parcel) ∧
      ofIdentity? "app.parcel.12" = some (parcel, "12") ∧
      parcel = ⟨"app", "par" ++ "cel"⟩ ∧ "3.12" = "3" ++ ".12" := by
  obtain ⟨written, read, apart⟩ := identity_unambiguous
  have app : IsWord "app" := ⟨by decide, List.all_eq_true.1 (by decide)⟩
  have name : IsWord "parcel" := ⟨by decide, List.all_eq_true.1 (by decide)⟩
  have digits : IsNumber "12" := ⟨by decide, List.all_eq_true.1 (by decide)⟩
  have found : ofIdentity? "app.parcel.12" = some (parcel, "12") := read "app" "parcel" "12" app name digits
  have labelled : parcel.IsLabelled := ⟨"app.parcel", by decide⟩
  have otherLabelled : IsLabelled ⟨"app", "par" ++ "cel"⟩ := ⟨"app.parcel", by decide⟩
  have same : parcel.identity "3.12" = identity ⟨"app", "par" ++ "cel"⟩ ("3" ++ ".12") := by decide
  exact ⟨written _ _ _ found, found, apart _ _ _ _ labelled otherLabelled same⟩

end RecordSearch.ModelType
