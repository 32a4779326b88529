import RecordSearch.Object.Record
import RecordSearch.Proofs.ResultSet.Compiled

namespace RecordSearch

namespace Plan

open Lucene (querySyntax)

variable {p : Plan} {contentField term : String} {settings : Settings} {factor : Float}

theorem composes_addBoost (composing : p.Composes contentField settings)
    (weighable : Weighable term factor) : (p.addBoost term factor).Composes contentField settings := by
  refine ⟨composing.raw, composing.lookups, composing.types, ?_⟩
  intro entry listed
  rcases SortedMap.mem_insertEntry listed with rfl | there
  · exact weighable
  · exact composing.boosts entry there

theorem selects_addBoost {Obj : Type} (c : Connection Table Obj)
    (composing : p.Composes c.engine.settings.contentField c.settings)
    (writes : p.conditionQuery (Engine.querySyntax c.engine) c.settings ≠ "")
    (weighable : Weighable term factor) (r : Row) :
    (p.addBoost term factor).selects c r = p.selects c r := by
  rw [selects_eq (composes_addBoost composing weighable) writes, selects_eq composing writes]
  rfl

/-- Behind conditions that ask for something, a weighted word leaves the query readable and the same rows
accepted, so the answers rank the hits that the plan had. -/
theorem found_addBoost {Obj : Type} (composing : p.Composes contentField settings)
    (writes : p.conditionQuery (querySyntax contentField) settings ≠ "")
    (weighable : Weighable term factor) :
    (∃ before after, Lucene.read (p.query (querySyntax contentField) settings) = .ok before ∧
      Lucene.read ((p.addBoost term factor).query (querySyntax contentField) settings) = .ok after ∧
      ∀ r, after.accepts contentField r = before.accepts contentField r) ∧
    ∀ c : Connection Table Obj, c.engine.settings.contentField = contentField →
      c.settings = settings → (p.addBoost term factor).found c = p.found c ∧
        Table.Ranks (p.found c) (p.answers c) ∧
        Table.Ranks (p.found c) ((p.addBoost term factor).answers c) := by
  constructor
  · obtain ⟨before, read, accepted⟩ := exists_read_query composing writes
    obtain ⟨after, readBoosted, acceptedBoosted⟩ :=
      exists_read_query (composes_addBoost composing weighable) writes
    refine ⟨before, after, read, readBoosted, ?_⟩
    intro r
    rw [accepted, acceptedBoosted]
    rfl
  · rintro c rfl rfl
    have alike : (p.addBoost term factor).selects c = p.selects c :=
      funext fun r => selects_addBoost c composing writes weighable r
    have same : (p.addBoost term factor).found c = p.found c := by
      rw [found, alike, found]
    exact ⟨same, p.ranks_answers c, same ▸ (p.addBoost term factor).ranks_answers c⟩

def foxes : Plan :=
  ((Plan.empty.addFilter (.content (.text "red fox")) .and).addFilter
    (Condition.lookup "title__startswith" (.text "fo*")).inverted .or).addBoost "news" 0.5

theorem found_addBoost_foxes :
    Weighable "c++" 2 ∧
    (∃ before after, Lucene.read (foxes.query (querySyntax "content") .default) = .ok before ∧
      Lucene.read ((foxes.addBoost "c++" 2).query (querySyntax "content") .default) = .ok after ∧
      ∀ r, after.accepts "content" r = before.accepts "content" r) ∧
    ∀ c : Connection Table Record, c.engine.settings.contentField = "content" →
      c.settings = .default → (foxes.addBoost "c++" 2).found c = foxes.found c ∧
        Table.Ranks (foxes.found c) (foxes.answers c) ∧
        Table.Ranks (foxes.found c) ((foxes.addBoost "c++" 2).answers c) := by
  have weighable : Weighable "c++" 2 := ⟨by decide, by decide⟩
  have composing : foxes.Composes "content" .default := by
    refine ⟨rfl, by decide +kernel, Or.inl rfl, ?_⟩
    intro entry listed
    obtain rfl : entry = ("news", 0.5) := List.mem_singleton.1 listed
    exact ⟨by decide, by decide⟩
  exact ⟨weighable, found_addBoost composing (by decide +kernel) weighable⟩

/-- Of a term with a blank only the last word is weighted and the others have to match, and a term that is a
keyword leaves nothing that can be read. -/
theorem not_satisfies_addBoost :
    let p := Plan.empty.addFilter (.content (.text "fox")) .and
    let r : Row := ⟨"1", "app.note", "text", .ofList [("text", .text "A fox")], .empty⟩
    let query := fun p : Plan => p.query (querySyntax "content") .default
    r.satisfies "content" (query p) = true ∧
      (Lucene.read (query (p.addBoost "red dog" 2))).isOk = true ∧
      r.satisfies "content" (query (p.addBoost "red dog" 2)) = false ∧
      (Lucene.read (query (p.addBoost "AND" 2))).isOk = false := by
  decide +kernel

end Plan

end RecordSearch
