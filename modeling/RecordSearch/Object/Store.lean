import RecordSearch.Object.Source

namespace RecordSearch

/-- What a store answers: single objects, and those of several keys at once. -/
structure ObjectStore (Obj : Type) where
  get : String → Except Error (Option Obj)
  inBulk : List String → Except Error (List (String × Obj))

structure ObjectList (Obj : Type) where
  objects : List (String × Obj)

namespace ObjectList

variable {Obj : Type}

def empty : ObjectList Obj := ⟨[]⟩

def insertEntry (pk : String) (o : Obj) : List (String × Obj) → List (String × Obj)
  | [] => [(pk, o)]
  | entry :: rest => if entry.1 = pk then (pk, o) :: rest else entry :: insertEntry pk o rest

/-- Puts an object in the place of the one with its key, or at the end. -/
def insert (s : ObjectList Obj) (pk : String) (o : Obj) : ObjectList Obj :=
  ⟨insertEntry pk o s.objects⟩

def find? (s : ObjectList Obj) (pk : String) : Option Obj :=
  (s.objects.find? fun entry => entry.1 = pk).map Prod.snd

def erase (s : ObjectList Obj) (pk : String) : ObjectList Obj :=
  ⟨s.objects.eraseP fun entry => entry.1 = pk⟩

def filter (s : ObjectList Obj) (keep : Obj → Bool) : ObjectList Obj :=
  ⟨s.objects.filter fun entry => keep entry.2⟩

def toList (s : ObjectList Obj) : List Obj := s.objects.map Prod.snd

def size (s : ObjectList Obj) : Nat := s.objects.length

def findAll (s : ObjectList Obj) (pks : List String) : List (String × Obj) :=
  pks.filterMap fun pk => (s.find? pk).map fun o => (pk, o)

def ofObjects [Source Obj] (objects : List Obj) : ObjectList Obj :=
  objects.foldl (fun s o => match Source.pk? o with
    | some pk => s.insert pk o
    | none => s) empty

def toStore (s : ObjectList Obj) : ObjectStore Obj where
  get pk := .ok (s.find? pk)
  inBulk pks := .ok (s.findAll pks)

end ObjectList

end RecordSearch
