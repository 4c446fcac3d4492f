import ChartManifests.Proofs.Yaml.Reading
import ChartManifests.Yaml.Stream
/-!
The documents of a stream. A stream yields the values of its documents one after the other, up to
its end or up to the first fault; loading all of it gives all of the values or the fault.
-/

namespace ChartManifests.Yaml

namespace Stream

/-- What a stream yields from a state on: values, and the fault that ends them if there is one. -/
inductive Yields : ReaderState → Bool → List Value → Option Fault → Prop
  | ended {state after : ReaderState} {first : Bool} :
      (Reader.readOpening first).run state = .ok (.none, after) → Yields state first [] none
  | unopened {state : ReaderState} {first : Bool} {fault : Fault} :
      (Reader.readOpening first).run state = .error fault → Yields state first [] (some fault)
  | unread {state opened : ReaderState} {first : Bool} {opening : Opening} {fault : Fault} :
      (Reader.readOpening first).run state = .ok (opening, opened) → opening ≠ .none →
      (Reader.readDocument opening).run opened = .error fault → Yields state first [] (some fault)
  | unvalued {state opened next : ReaderState} {first : Bool} {opening : Opening}
      {document : Document} {fault : Fault} :
      (Reader.readOpening first).run state = .ok (opening, opened) → opening ≠ .none →
      (Reader.readDocument opening).run opened = .ok (document, next) →
      document.value 0 = .error fault → Yields state first [] (some fault)
  | document {state opened next : ReaderState} {first : Bool} {opening : Opening}
      {document : Document} {value : Value} {values : List Value} {ending : Option Fault} :
      (Reader.readOpening first).run state = .ok (opening, opened) → opening ≠ .none →
      (Reader.readDocument opening).run opened = .ok (document, next) →
      document.value 0 = .ok value → Yields next false values ending →
      Yields state first (value :: values) ending

/-- How far a stream is from its end at least. The first document may come without a marker. -/
def distance (state : ReaderState) (first : Bool) : Nat := state.tokens.length + first.toNat

theorem distance_decreases {state opened next : ReaderState} {first : Bool} {opening : Opening}
    {document : Document} (begun : (Reader.readOpening first).run state = .ok (opening, opened))
    (there : opening ≠ .none)
    (read : (Reader.readDocument opening).run opened = .ok (document, next)) :
    distance next false < distance state first := by
  have inside := (Reader.readDocument_forward opening opened document next read).length_le
  obtain marked | ⟨rfl, bare⟩ := Reader.readOpening_shortens begun there
  · simp only [distance, Bool.toNat_false]
    omega
  · simp only [distance, Bool.toNat_false, Bool.toNat_true]
    omega

theorem exists_yields (state : ReaderState) (first : Bool) :
    ∃ values ending, Yields state first values ending := by
  cases begun : (Reader.readOpening first).run state with
  | error fault => exact ⟨[], some fault, .unopened begun⟩
  | ok reached =>
    obtain ⟨opening, opened⟩ := reached
    by_cases there : opening = .none
    · exact ⟨[], none, .ended (there ▸ begun)⟩
    · cases read : (Reader.readDocument opening).run opened with
      | error fault => exact ⟨[], some fault, .unread begun there read⟩
      | ok behind =>
        obtain ⟨document, next⟩ := behind
        cases valued : document.value 0 with
        | error fault => exact ⟨[], some fault, .unvalued begun there read valued⟩
        | ok value =>
          have closer := distance_decreases begun there read
          obtain ⟨values, ending, yields⟩ := exists_yields next false
          exact ⟨value :: values, ending, .document begun there read valued yields⟩
termination_by distance state first

def loaded (values : List Value) : Option Fault → Except Fault (List Value)
  | none => .ok values
  | some fault => .error fault

theorem valuesFrom_succ {state opened : ReaderState} {first : Bool} {opening : Opening}
    (begun : (Reader.readOpening first).run state = .ok (opening, opened))
    (there : opening ≠ .none) (fuel : Nat) :
    valuesFrom state first (fuel + 1) = (do
      let (document, next) ← (Reader.readDocument opening).run opened
      let value ← document.value 0
      .ok (value :: (← valuesFrom next false fuel))) := by
  rw [valuesFrom, begun]
  cases opening with
  | none => exact absurd rfl there
  | bare => rfl
  | marked => rfl

theorem valuesFrom_of_yields {state : ReaderState} {first : Bool} {values : List Value}
    {ending : Option Fault} (yields : Yields state first values ending) {fuel : Nat}
    (enough : distance state first ≤ fuel) :
    valuesFrom state first (fuel + 1) = loaded values ending := by
  induction yields generalizing fuel with
  | ended begun =>
    rw [valuesFrom, begun]
    rfl
  | unopened begun =>
    rw [valuesFrom, begun]
    rfl
  | unread begun there read =>
    rw [valuesFrom_succ begun there, read]
    rfl
  | unvalued begun there read valued =>
    rw [valuesFrom_succ begun there, read]
    simp only [bind, Except.bind, valued]
    rfl
  | @document _ _ _ _ _ _ _ _ ending begun there read valued _ ih =>
    -- What follows is closer to the end, so the fuel that is left is enough for it.
    have closer := distance_decreases begun there read
    obtain ⟨less, rfl⟩ : ∃ less, fuel = less + 1 := ⟨fuel - 1, by omega⟩
    rw [valuesFrom_succ begun there, read]
    simp only [bind, Except.bind, valued, ih (by omega : _ ≤ less)]
    cases ending <;> rfl

end Stream

/-- What a source yields: nothing but a fault if it cannot be decoded, and otherwise what the stream
of its tokens yields. -/
inductive Yields (source : Source) : List Value → Option Fault → Prop
  | undecoded {fault : Fault} : Stream.start source = .error fault →
      Yields source [] (some fault)
  | decoded {state : ReaderState} {values : List Value} {ending : Option Fault} :
      Stream.start source = .ok state → Stream.Yields state true values ending →
      Yields source values ending

theorem exists_yields (source : Source) : ∃ values ending, Yields source values ending := by
  cases begun : Stream.start source with
  | error fault => exact ⟨[], some fault, .undecoded begun⟩
  | ok state =>
    obtain ⟨values, ending, yields⟩ := Stream.exists_yields state true
    exact ⟨values, ending, .decoded begun yields⟩

theorem loadAll_of_yields {source : Source} {values : List Value} {ending : Option Fault}
    (yields : Yields source values ending) : loadAll source = Stream.loaded values ending := by
  cases yields with
  | undecoded failed =>
    rw [loadAll, failed]
    rfl
  | decoded begun yields =>
    rw [loadAll, begun]
    exact Stream.valuesFrom_of_yields yields (by simp [Stream.distance])

end ChartManifests.Yaml
