import Std.Data.HashMap
import ChartManifests.Rules.Datum
/-!
Tables of items by keys, which remember in which order a loop goes over the keys. A key that is a
whole number is kept by its number first, and by its text once a key is looked for by text; either
way the keys stand in lists, several to a list, with the one that was looked for last in front. The
numbers from one up to a count, as a split leaves them, are in no list until another key comes.
-/

namespace ChartManifests.Rules

inductive Key
  | number (value : Int)
  | text (value : String)
deriving DecidableEq, Repr

def Key.spelling : Key → String
  | number value => toString value
  | text value => value

inductive Shelves
  | empty
  | counted (count : Nat)
  | listed (byNumber byText : Bool)
deriving DecidableEq, Repr

structure Items where
  values : Std.HashMap String Datum
  shelves : Shelves
  numbers : Array (List Int)
  texts : Array (List String)

namespace Items

def empty : Items := ⟨{}, .empty, #[], #[]⟩

def firstLists : Nat := 64

def longestList : Nat := 12

def hash (text : String) : Nat :=
  text.toList.foldl (fun sum character => Nat.xor sum character.toNat * 16777619 % 2 ^ 32)
    2166136261

def count (items : Items) : Nat := items.values.size

def has (items : Items) (key : Key) : Bool := items.values.contains key.spelling

def get (items : Items) (key : Key) : Datum := (items.values[key.spelling]?).getD .unset

def numberPlace (items : Items) (number : Int) : Nat :=
  (number % items.numbers.size).toNat

def textPlace (items : Items) (text : String) : Nat := hash text % items.texts.size

def fileNumber (items : Items) (number : Int) : Items :=
  let place := items.numberPlace number
  { items with numbers := items.numbers.modify place fun list =>
      number :: list.filter (· ≠ number) }

def fileText (items : Items) (text : String) : Items :=
  let place := items.textPlace text
  { items with texts := items.texts.modify place fun list => text :: list.filter (· ≠ text) }

def widened : Nat → Items → Nat → Items
  | 0, items, _ => items
  | bound + 1, items, count =>
    if count ≤ items.texts.size * longestList then items
    else
      let size := 2 * items.texts.size
      let spread {α : Type} (lists : Array (List α)) (place : α → Nat) : Array (List α) :=
        (Array.range size).map fun number =>
          ((lists[number % lists.size]?).getD []).filter fun key => place key = number
      let wider := { items with
        numbers := spread items.numbers fun number => (number % size).toNat
        texts := spread items.texts fun text => hash text % size }
      widened bound wider count

def listed (items : Items) : Items :=
  let fresh := { items with
    shelves := .listed false false
    numbers := Array.replicate firstLists []
    texts := Array.replicate firstLists [] }
  match items.shelves with
  | .empty => fresh
  | .counted count =>
    let wide := widened 64 fresh count
    let filled := (List.range count).foldl (fun (items : Items) (index : Nat) =>
      items.fileNumber ((index : Int) + 1)) wide
    { filled with shelves := .listed true false }
  | .listed _ _ => items

def withTexts (items : Items) : Items :=
  match items.listed, items.listed.shelves with
  | lists, .listed byNumber false =>
    let filled := lists.numbers.foldl (fun items numbers =>
      numbers.foldl (fun (items : Items) number => items.fileText (toString number)) items) lists
    { filled with shelves := .listed byNumber true }
  | lists, _ => lists

def seekText (creates : Bool) (items : Items) (text : String) : Items :=
  let lists := items.withTexts
  if items.values.contains text then lists.fileText text
  else if creates then (widened 64 lists (items.count + 1)).fileText text
  else lists

def seek (creates : Bool) (items : Items) (key : Key) : Items :=
  if items.count = 0 && !creates then items
  else
    let added (found : Items) : Items :=
      if creates && !items.has key then
        { found with values := found.values.insert key.spelling .unset }
      else found
    match key, items.shelves with
    | .text text, _ => added (items.seekText creates text)
    | .number number, .counted count =>
      if 1 ≤ number ∧ number ≤ count then items
      else if !creates then items
      else
        let lists := widened 64 items.listed (items.count + 1)
        added { lists.fileNumber number with shelves := .listed true false }
    | .number number, _ =>
      let lists := items.listed
      let byText := lists.shelves matches .listed _ true
      let isFiled := ((lists.numbers[lists.numberPlace number]?).getD []).contains number
      if isFiled then lists.fileNumber number
      else if byText then
        let sought := lists.seekText creates (toString number)
        if creates || items.has key then
          added { sought.fileNumber number with shelves := .listed true true }
        else sought
      else if creates then
        let wide := widened 64 lists (items.count + 1)
        added { wide.fileNumber number with shelves := .listed true false }
      else lists

def set (items : Items) (key : Key) (value : Datum) : Items :=
  let sought := items.seek true key
  { sought with values := sought.values.insert key.spelling value }

def remove (items : Items) (key : Key) : Items :=
  let sought := match items.shelves, key with
    | .counted count, .number number =>
      if 1 ≤ number ∧ number ≤ count then items.listed.seek false key else items
    | _, _ => items.seek false key
  if !items.has key then sought
  else if items.count = 1 then empty
  else
    let text := key.spelling
    { sought with
      values := sought.values.erase text
      numbers := sought.numbers.map fun list => list.filter fun number => toString number ≠ text
      texts := sought.texts.map fun list => list.filter (· ≠ text) }

def ofList (values : List Datum) : Items :=
  { empty with
    values := Std.HashMap.ofList (values.zipIdx.map fun (value, index) =>
    (toString (index + 1), value))
    shelves := if values.isEmpty then .empty else .counted values.length }

def keys (items : Items) : List String × Items :=
  if items.count = 0 then ([], items)
  else
    let lists := items.withTexts
    (lists.texts.toList.flatten, lists)

end Items

end ChartManifests.Rules
