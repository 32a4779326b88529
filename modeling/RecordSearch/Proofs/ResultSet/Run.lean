import RecordSearch.Proofs.ResultSet.Source

namespace RecordSearch

inductive Read where
  | count
  | get (position : Nat)
  | slice (start : Nat) (stop : Option Nat)
  | sliceStep (start : Nat) (stop : Option Nat) (step : Nat)
  | fillCache (start stop : Nat)
  /-- Goes on with an iterator that has come to a position, as far as the limit allows. -/
  | iterAt (position : Nat) (limit : Option Nat)
  | stream (limit : Option Nat)

inductive Answer (α : Type) where
  | number (n : Nat)
  | value (a : Option α)
  | values (all : List α)
  | found (b : Bool)

/-- What a read returns where these are the items at all positions. -/
def Read.answer {α : Type} (items : List (Option α)) : Read → Answer α
  | count => .number items.length
  | get position => .value (itemAt items position)
  | slice start stop => .values (existing ((items.take (stop.getD items.length)).drop start))
  | sliceStep start stop step =>
      .values ((Reading.stepped start (min (stop.getD items.length) items.length) (max step 1)).filterMap
        (itemAt items))
  | fillCache start stop => .found (decide (start < stop ∧ start < items.length))
  | iterAt position limit => .values (upTo limit (existing (items.drop position)))
  | stream limit => .values (upTo limit (existing items))

namespace ResultSet

section

variable {σ Obj : Type} [Engine σ]

def perform (s : ResultSet Obj) (c : Connection σ Obj) :
    Read → Answer (Hit Obj) × ResultSet Obj × Connection σ Obj
  | .count => let (n, s, c) := s.count c; (.number n, s, c)
  | .get position => let (a, s, c) := s.get c position; (.value a, s, c)
  | .slice start stop => let (all, s, c) := s.slice c start stop; (.values all, s, c)
  | .sliceStep start stop step => let (all, s, c) := s.sliceStep c start stop step; (.values all, s, c)
  | .fillCache start stop => let (b, s, c) := s.fillCache c start stop; (.found b, s, c)
  | .iterAt position limit => let (all, s, c) := s.iterAt c position limit; (.values all, s, c)
  | .stream limit => let (all, c) := s.stream c limit; (.values all, s, c)

/-- Performs reads one after the other. -/
def performAll (s : ResultSet Obj) (c : Connection σ Obj) :
    List Read → List (Answer (Hit Obj)) × ResultSet Obj × Connection σ Obj
  | [] => ([], s, c)
  | read :: rest =>
      let (answer, s, c) := s.perform c read
      let (answers, s, c) := s.performAll c rest
      (answer :: answers, s, c)

end

variable {Obj : Type} {s : ResultSet Obj} {c : Connection Table Obj}

/-- What reads leave behind: the same set with another cache that agrees, and a connection alike. -/
structure Follows (s : ResultSet Obj) (c : Connection Table Obj) (t : ResultSet Obj)
    (d : Connection Table Obj) : Prop where
  set : t = { s with cache := t.cache }
  alike : c.Alike d
  cache : t.cache.Agrees (s.reference c)

theorem Follows.sound {t : ResultSet Obj} {d : Connection Table Obj} (follows : s.Follows c t d) :
    Reading.Sound c.Alike (s.reference c) ⟨t.cache, d⟩ := ⟨follows.cache, follows.alike⟩

theorem Follows.faithful {t : ResultSet Obj} {d : Connection Table Obj} (follows : s.Follows c t d)
    (kept : s.plan.KeepsHits c) (byKey : s.LoadsByKey c.registry) :
    Faithful t.fetch c.Alike (s.reference c) := by
  rw [follows.set]
  exact faithful_fetch (s := { s with cache := t.cache }) kept byKey

theorem Follows.readWith {β : Type} {t : ResultSet Obj} {d : Connection Table Obj}
    (follows : s.Follows c t d) {b : β}
    (reader : Reading (Connection Table Obj) (Hit Obj) → β × Reading (Connection Table Obj) (Hit Obj))
    (result : (reader ⟨t.cache, d⟩).1 = b ∧ (reader ⟨t.cache, d⟩).2.Sound c.Alike (s.reference c)) :
    (t.readWith d reader).1 = b ∧ s.Follows c (t.readWith d reader).2.1 (t.readWith d reader).2.2 := by
  obtain ⟨answer, sound⟩ := result
  refine ⟨answer, ?_, sound.source, sound.cache⟩
  change { t with cache := (reader ⟨t.cache, d⟩).2.cache } = _
  rw [follows.set]
  rfl

theorem count_eq (kept : s.plan.KeepsHits c) {t : ResultSet Obj} {d : Connection Table Obj}
    (follows : s.Follows c t d) :
    (t.perform d .count).1 = Read.count.answer (s.reference c) ∧
      s.Follows c (t.perform d .count).2.1 (t.perform d .count).2.2 := by
  have plan : t.plan = s.plan := by
    rw [follows.set]
  have length : (t.plan.hits c).length = (s.reference c).length := by
    rw [reference, List.length_map, plan]
  rw [← plan] at kept
  simp only [perform, ResultSet.count, Read.answer]
  cases known : t.cache.hitCount with
  | some n =>
      rcases follows.cache with counted | ⟨unknown, -⟩
      · rw [counted.hitCount] at known
        exact ⟨congrArg Answer.number (Option.some.inj known).symm, follows⟩
      · rw [unknown] at known
        cases known
  | none =>
      obtain ⟨hits, -, alike⟩ := Plan.run_window kept follows.alike 0 0
      rw [length] at hits
      refine ⟨congrArg Answer.number hits, ?_, alike, ?_⟩
      · simp only
        rw [follows.set]
      · simp only
        rw [hits]
        exact Or.inl follows.cache.setCount

/-- Every read gives what the reference gives, whatever was read before. -/
theorem perform_eq (kept : s.plan.KeepsHits c) (byKey : s.LoadsByKey c.registry) {t : ResultSet Obj}
    {d : Connection Table Obj} (follows : s.Follows c t d) (read : Read) :
    (t.perform d read).1 = read.answer (s.reference c) ∧
      s.Follows c (t.perform d read).2.1 (t.perform d read).2.2 := by
  have faithful := follows.faithful kept byKey
  have sound := follows.sound
  cases read with
  | count => exact count_eq kept follows
  | get position =>
      obtain ⟨answer, after⟩ := follows.readWith (fun r => r.get t.fetch t.pageSize position)
        (Reading.get_eq t.pageSize faithful sound position)
      exact ⟨congrArg Answer.value answer, after⟩
  | slice start stop =>
      obtain ⟨answer, after⟩ := follows.readWith (fun r => r.slice t.fetch t.pageSize start stop)
        (Reading.slice_eq t.pageSize faithful sound start stop)
      exact ⟨congrArg Answer.values answer, after⟩
  | sliceStep start stop step =>
      obtain ⟨answer, after⟩ := follows.readWith (fun r => r.sliceStep t.fetch t.pageSize start stop step)
        (Reading.sliceStep_eq t.pageSize faithful sound start stop step)
      exact ⟨congrArg Answer.values answer, after⟩
  | fillCache start stop =>
      obtain ⟨answer, after⟩ := follows.readWith (fun r => r.fill t.fetch start stop)
        ⟨sound.fill_found faithful start stop, (sound.fill faithful start stop).sound⟩
      exact ⟨congrArg Answer.found answer, after⟩
  | iterAt position limit =>
      obtain ⟨answer, after⟩ := follows.readWith (fun r => r.iterAt t.fetch t.pageSize position limit)
        (Reading.iterAt_eq t.pageSize faithful sound position limit)
      exact ⟨congrArg Answer.values answer, after⟩
  | stream limit =>
      obtain ⟨answer, alike⟩ := Reading.stream_eq t.pageSize faithful follows.alike limit
      exact ⟨congrArg Answer.values answer, follows.set, alike, follows.cache⟩

theorem performAll_eq (kept : s.plan.KeepsHits c) (byKey : s.LoadsByKey c.registry) {t : ResultSet Obj}
    {d : Connection Table Obj} (follows : s.Follows c t d) (reads : List Read) :
    (t.performAll d reads).1 = reads.map (Read.answer (s.reference c)) ∧
      s.Follows c (t.performAll d reads).2.1 (t.performAll d reads).2.2 := by
  induction reads generalizing t d with
  | nil => exact ⟨rfl, follows⟩
  | cons read rest ih =>
      obtain ⟨answer, after⟩ := perform_eq kept byKey follows read
      -- the set that one read leaves is as good a start for the rest
      obtain ⟨answers, still⟩ := ih after
      refine ⟨?_, still⟩
      rw [List.map_cons, ← answer, ← answers]
      rfl

/-- As long as neither the table nor the stores change, all reads of a set agree with the list of all its
hits in whatever order they are made, and so does what they leave in the cache. -/
theorem answers_performAll (fresh : s.cache = .fresh) (kept : s.plan.KeepsHits c)
    (byKey : s.LoadsByKey c.registry) (reads : List Read) :
    (s.performAll c reads).1 = reads.map (Read.answer (s.reference c)) ∧
      (s.performAll c reads).2.1.cache.Agrees (s.reference c) := by
  have start : s.Follows c s c := by
    refine ⟨rfl, Connection.Alike.refl c, ?_⟩
    rw [fresh]
    exact Cache.agrees_fresh (s.reference c)
  obtain ⟨answers, follows⟩ := performAll_eq kept byKey start reads
  exact ⟨answers, follows.cache⟩

def noteRow (pk title : String) : Row where
  identity := "app.note." ++ pk
  model := "app.note"
  documentField := "text"
  indexed := .ofList [("title", .text title)]
  stored := .ofList [("model_type", .text "app.note"), ("model_pk", .text pk)]

def notes : Connection Table Nat where
  engine := ⟨.default, [noteRow "1" "Red", noteRow "2" "Blue", noteRow "3" "Green"]⟩
  settings := .default
  registry := ⟨[⟨⟨⟨⟨"app", "note"⟩, []⟩, .empty, none⟩, (ObjectList.mk [("1", 10), ("3", 30)]).toStore⟩]⟩
  log := .ofEnabled false
  storeCalls := []

theorem answers_performAll_notes :
    let s : ResultSet Nat := ⟨.addOrder .empty ["title"], .of 2, .fresh, true, true, .empty⟩
    let reads : List Read := [.get 1, .iterAt 0 (some 1), .sliceStep 0 none 2, .stream none, .count]
    (s.reference notes).map Option.isSome = [false, true, true] ∧
      (s.performAll notes reads).1 = reads.map (Read.answer (s.reference notes)) ∧
      (s.performAll notes reads).2.1.cache.Agrees (s.reference notes) := by
  refine ⟨by decide, answers_performAll rfl ?_ ?_ _⟩
  · unfold Plan.KeepsHits
    decide
  · intro model replacement store used
    obtain ⟨entry, found, same⟩ := Option.map_eq_some_iff.1 used
    obtain rfl := List.mem_singleton.1 (List.mem_of_find?_eq_some found)
    cases same
    exact ObjectList.keyByKey_toStore _

end ResultSet

end RecordSearch
