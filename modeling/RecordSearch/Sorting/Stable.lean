import RecordSearch.Sorting.Short

/-!
Stable sorting. A list is cut into runs, which are merged two by two; what a run has is sorted when it is cut,
or by splitting at a pivot when it is merged. The sort breaks off where a short list does.
-/

namespace RecordSearch.Sorting

variable {α : Type}

/-- Elements that stand side by side, and whether they are in order. -/
structure Run (α : Type) where
  items : List α
  ordered : Bool

def chained (next : α → α → Bool) (a : α) : List α → Nat
  | [] => 0
  | b :: rest => if next a b then chained next b rest + 1 else 0

def slope (lt : α → α → Bool) : List α → Nat × Bool
  | a :: b :: rest =>
    if lt b a then (chained (fun a b => lt b a) b rest + 2, true)
    else (chained (fun a b => !lt b a) b rest + 2, false)
  | s => (s.length, false)

def shortLength : Nat := 32

/-- The first run: what is in order as it stands, if that is long enough. Otherwise a short list is sorted, or
some elements are taken as they are. -/
def firstRun? (lt : α → α → Bool) (eager : Bool) (least : Nat) (s : List α) : Option (Run α) :=
  let (length, falls) := slope lt s
  if least ≤ length then
    some ⟨if falls then (s.take length).reverse else s.take length, true⟩
  else if eager then (sortShort? lt (s.take shortLength)).map (Run.mk · true)
  else some ⟨s.take least, false⟩

/-- Two lists in order as one. The shorter one is merged into the longer one from its own end. -/
def mergeRuns (lt : α → α → Bool) (left right : List α) : List α :=
  if left.length ≤ right.length then left.merge right fun a b => !lt b a
  else (left.reverse.merge right.reverse fun a b => lt b a).reverse

section

variable (lt : α → α → Bool) (room : Nat) (quick : List α → Option (List α))

def Run.finish? (r : Run α) : Option (List α) := if r.ordered then some r.items else quick r.items

/-- Runs that are not in order stay so as long as there is room to sort them together. -/
def join? (left right : Run α) : Option (Run α) :=
  if left.ordered || right.ordered || room < left.items.length + right.items.length then do
    let first ← left.finish? quick
    let second ← right.finish? quick
    some ⟨mergeRuns lt first second, true⟩
  else some ⟨left.items ++ right.items, false⟩

/-- Joins a run with the runs before it, the last one first, as long as these are to be joined at the depth or
further down. -/
def collapse? (depth : Nat) : List (Run α × Nat) → Run α → Option (List (Run α × Nat) × Run α)
  | [], r => some ([], r)
  | (before, d) :: stack, r =>
    if depth ≤ d then (join? lt room quick before r).bind (collapse? depth stack)
    else some ((before, d) :: stack, r)

/-- The depth at which two neighbouring runs meet in a balanced tree: how many leading bits the middles of the
two have in common. -/
def meetingDepth (scale start middle stop : Nat) : Nat :=
  let apart := scale * (start + middle) ^^^ scale * (middle + stop)
  if apart = 0 then 64 else 63 - apart.log2

def joinRuns? (eager : Bool) (least scale : Nat) (stack : List (Run α × Nat)) (r : Run α) (scanned : Nat)
    (rest : List α) : Option (List α) :=
  if rest.isEmpty then
    (collapse? lt room quick 0 stack r).bind fun joined => joined.2.finish? quick
  else
    (firstRun? lt eager least rest).bind fun next =>
      let stop := scanned + next.items.length
      let depth := meetingDepth scale (scanned - r.items.length) scanned stop
      (collapse? lt room quick depth stack r).bind fun joined =>
        if _shorter : (rest.drop next.items.length).length < rest.length then
          joinRuns? eager least scale ((joined.2, depth) :: joined.1) next stop (rest.drop next.items.length)
        else none
termination_by rest.length
decreasing_by assumption

def rootOf (n : Nat) : Nat :=
  let shift := (1 + (n ||| 1).log2) / 2
  (1 <<< shift + n >>> shift) / 2

def leastRun (n : Nat) : Nat := if n ≤ 64 * 64 then min (n - n / 2) 64 else rootOf n

def sortByRuns? (eager : Bool) (s : List α) : Option (List α) :=
  let least := leastRun s.length
  let scale := (1 <<< 62 + s.length - 1) / s.length
  (firstRun? lt eager least s).bind fun r =>
    joinRuns? lt room quick eager least scale [] r r.items.length (s.drop r.items.length)

end

section

variable (lt : α → α → Bool)

def lessAt (s : List α) (i j : Nat) : Bool :=
  match s[i]?, s[j]? with
  | some a, some b => lt a b
  | _, _ => false

def medianAt (s : List α) (i j k : Nat) : Nat :=
  let first := lessAt lt s i j
  if first == lessAt lt s i k then
    if lessAt lt s j k != first then k else j
  else i

/-- The place of a median of medians, of places from each of three stretches of `n`. -/
def medianOf (s : List α) (n i j k : Nat) : Nat :=
  if 64 ≤ n * 8 then
    let m := n / 8
    medianAt lt s (medianOf s m i (i + m * 4) (i + m * 7)) (medianOf s m j (j + m * 4) (j + m * 7))
      (medianOf s m k (k + m * 4) (k + m * 7))
  else medianAt lt s i j k
termination_by n

def pivotAt (s : List α) : Nat :=
  let n := s.length / 8
  if s.length < 64 then medianAt lt s 0 (n * 4) (n * 7) else medianOf lt s n 0 (n * 4) (n * 7)

/-- Splits a list at a pivot, at most `limit` times in depth, until the parts are short. Where the pivot is the
one that the list lies behind, or nothing is less, what is equal to it needs no more sorting. -/
def quicksort? (room : Nat) : Nat → Option α → List α → Option (List α)
  | limit, ancestor, s =>
    if s.length ≤ shortLength then sortShort? lt s
    else
      match limit with
      | 0 => sortByRuns? lt room (fun _ => none) true s
      | limit + 1 =>
        let place := pivotAt lt s
        let before := s.take place
        let after := s.drop (place + 1)
        s[place]?.bind fun pivot =>
          let less := before.filter (lt · pivot) ++ after.filter (lt · pivot)
          if ancestor.any (fun a => !lt a pivot) || less.isEmpty then
            let same := before.filter (!lt pivot ·) ++ pivot :: after.filter (!lt pivot ·)
            let more := before.filter (lt pivot ·) ++ after.filter (lt pivot ·)
            (quicksort? room limit none more).map (same ++ ·)
          else
            let others := before.filter (!lt · pivot) ++ pivot :: after.filter (!lt · pivot)
            (quicksort? room limit (some pivot) others).bind fun right =>
              (quicksort? room limit ancestor less).map (· ++ right)

end

def roomFor (n : Nat) : Nat :=
  let wanted := max (max (n - n / 2) (min n 500000)) 48
  if wanted ≤ 256 then 256 else wanted

/-- The list in ascending order; elements of which none is less keep their order. Long lists may have no
result where the comparison is no order. -/
def stable? (lt : α → α → Bool) (s : List α) : Option (List α) :=
  if s.length ≤ 20 then some (sorted lt s)
  else
    let room := roomFor s.length
    let quick t := quicksort? lt room (2 * (t.length ||| 1).log2) none t
    sortByRuns? lt room quick (s.length ≤ 2 * shortLength) s

end RecordSearch.Sorting
