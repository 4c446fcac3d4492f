import ChartManifests.Value
/-!
Keys of mappings and members of sets. Numbers of different kinds are the same key when they are
equal, so `1`, `1.0` and `true` are one key. A later entry with a key that is present replaces the
value in place.
-/

namespace ChartManifests.Value

mutual

def sameKey : Value → Value → Bool
  | null, null => true
  | text left, text right => left = right
  | bytes left, bytes right => left = right
  | date left, date right => left = right
  | moment left, moment right => left.same right
  | double left, double right => left.same right
  | undefined (some left), undefined (some right) => left = right
  | tuple left, tuple right => sameKeys left right
  | left, right =>
    match left.whole?, right.whole? with
    | some first, some second => first = second
    | _, _ => false

def sameKeys : List Value → List Value → Bool
  | [], [] => true
  | left :: lefts, right :: rights => sameKey left right && sameKeys lefts rights
  | _, _ => false

end

def put (key value : Value) : List (Value × Value) → List (Value × Value)
  | [] => [(key, value)]
  | entry :: rest =>
    if sameKey entry.1 key then (entry.1, value) :: rest else entry :: put key value rest

def putAll (entries : List (Value × Value)) : List (Value × Value) :=
  entries.foldl (fun kept entry => put entry.1 entry.2 kept) []

end ChartManifests.Value
