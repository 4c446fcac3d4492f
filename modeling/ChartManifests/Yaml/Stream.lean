import ChartManifests.Yaml.Construction
import ChartManifests.Yaml.Graph.Reader
/-!
Streams of documents: a stream that must hold at most one document, and a stream that is loaded
document by document.
-/

namespace ChartManifests.Yaml

namespace Stream

def single : Reader (Option Document) := do
  match ← Reader.readOpening true with
  | .none => pure none
  | opening =>
    let document ← Reader.readDocument opening
    match ← Reader.readOpening false with
    | .none => pure (some document)
    | _ => Reader.malformed

/-- The values of the documents that follow, in order. A document is given its value before the
next one is read, so the first fault in the stream is the one that is reported. -/
def valuesFrom (state : ReaderState) (first : Bool) : Nat → Except Fault (List Value)
  | 0 => .error .malformed
  | fuel + 1 => do
    match ← (Reader.readOpening first).run state with
    | (.none, _) => .ok []
    | (opening, opened) =>
      let (document, next) ← (Reader.readDocument opening).run opened
      let value ← document.value 0
      .ok (value :: (← valuesFrom next false fuel))

def start (source : Source) : Except Fault ReaderState := do
  .ok (ReaderState.start (TokenStream.ofCharacters (← source.characters)))

end Stream

def configurationLevels : Nat := 3

def load (source : Source) : Except Fault Value := do
  let (document?, _) ← Stream.single.run (← Stream.start source)
  match document? with
  | some document => document.value configurationLevels
  | none => .ok .null

def loadAll (source : Source) : Except Fault (List Value) := do
  let state ← Stream.start source
  Stream.valuesFrom state true (state.tokens.length + 2)

end ChartManifests.Yaml
