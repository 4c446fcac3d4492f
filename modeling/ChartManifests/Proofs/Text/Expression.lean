import ChartManifests.Text.Expression
import Mathlib.Data.List.Sort
/-!
What is found of an expression in a text: of all the parts that the expression stands for, the one
that begins first, and of those the longest. This holds of expressions that do not refer to what a
group has held.

The ends that an expression can have are worked out for many places at once, and an end that is
there already is not followed again. The way to an end is then walked for the groups on it; it is
always found.
-/

namespace ChartManifests.Text.Expression

def Place.between (front rest : List Char) : Place := ⟨front.getLast?, rest, rest.length⟩

def Place.IsIn (text : List Char) (place : Place) : Prop :=
  ∃ front rest, text = front ++ rest ∧ place = .between front rest

def Chain (step : Place → Place → Prop) : Nat → Place → Place → Prop
  | 0, first, last => last = first
  | count + 1, first, last => ∃ between, step first between ∧ Chain step count between last

def Spans (folds : Bool) : Expression → Place → Place → Prop
  | nothing, first, last => last = first
  | anyCharacter, first, last => first.step? (fun _ => true) = some last
  | exactly wanted, first, last => first.step? (same folds wanted) = some last
  | oneOf negated members, first, last =>
    first.step? (fun character => admits folds members character != negated) = some last
  | edge kind, first, last => last = first ∧ first.isAt kind = true
  | again _, _, _ => False
  | group _ body, first, last => Spans folds body first last
  | both one two, first, last => ∃ between, Spans folds one first between ∧
      Spans folds two between last
  | either one two, first, last => Spans folds one first last ∨ Spans folds two first last
  | repeated low high body, first, last => ∃ count, low ≤ count ∧
      (∀ most ∈ high, count ≤ most) ∧ Chain (Spans folds body) count first last

/-- No part refers to a group, and nothing is to be repeated at most less often than at least. -/
def Proper : Expression → Prop
  | again _ => False
  | group _ body => Proper body
  | both one two | either one two => Proper one ∧ Proper two
  | repeated low high body => (∀ most ∈ high, low ≤ most) ∧ Proper body
  | _ => True

section Places

variable {text : List Char} {first last : Place}

theorem Place.IsIn.eq_of_count (one : first.IsIn text) (two : last.IsIn text)
    (same : first.count = last.count) : first = last := by
  obtain ⟨front, rest, rfl, rfl⟩ := one
  obtain ⟨other, tail, split, rfl⟩ := two
  obtain ⟨rfl, rfl⟩ := List.append_inj' split same
  rfl

theorem Place.IsIn.step? (inside : first.IsIn text) {holds : Char → Bool}
    (stepped : first.step? holds = some last) : last.IsIn text ∧ last.count < first.count := by
  obtain ⟨front, rest, rfl, rfl⟩ := inside
  cases rest with
  | nil => cases stepped
  | cons character rest =>
    simp only [Place.step?, Place.between] at stepped
    split at stepped
    next =>
      cases stepped
      refine ⟨⟨front ++ [character], rest, by simp, by simp [Place.between]⟩, ?_⟩
      simp [Place.between]
    next => cases stepped

def GoesOn (text : List Char) (step : Place → Place → Prop) : Prop :=
  ∀ first last, first.IsIn text → step first last → last.IsIn text ∧ last.count ≤ first.count

theorem GoesOn.chain {step : Place → Place → Prop} (goesOn : GoesOn text step) (count : Nat) :
    GoesOn text (Chain step count) := by
  induction count with
  | zero =>
    rintro first _ inside rfl
    exact ⟨inside, Nat.le_refl _⟩
  | succ count ih =>
    rintro first last inside ⟨between, stepped, rest⟩
    obtain ⟨within, further⟩ := goesOn first between inside stepped
    obtain ⟨ended, end_⟩ := ih between last within rest
    exact ⟨ended, Nat.le_trans end_ further⟩

theorem spans_goesOn (text : List Char) (folds : Bool) (expression : Expression) :
    GoesOn text (Spans folds expression) := by
  induction expression with
  | nothing =>
    rintro first _ inside rfl
    exact ⟨inside, Nat.le_refl _⟩
  | edge kind =>
    rintro first _ inside ⟨rfl, _⟩
    exact ⟨inside, Nat.le_refl _⟩
  | anyCharacter | exactly | oneOf =>
    intro first last inside spans
    obtain ⟨within, further⟩ := inside.step? spans
    exact ⟨within, Nat.le_of_lt further⟩
  | again => exact fun first last inside spans => spans.elim
  | group number body ih => exact ih
  | both one two ihOne ihTwo =>
    rintro first last inside ⟨between, begun, ended⟩
    obtain ⟨within, further⟩ := ihOne first between inside begun
    obtain ⟨there, end_⟩ := ihTwo between last within ended
    exact ⟨there, Nat.le_trans end_ further⟩
  | either one two ihOne ihTwo =>
    rintro first last inside (spans | spans)
    · exact ihOne first last inside spans
    · exact ihTwo first last inside spans
  | repeated low high body ih =>
    rintro first last inside ⟨count, _, _, chain⟩
    exact ih.chain count first last inside chain

end Places

section Furthest

variable {text : List Char} {places : List Place} {place : Place}

def keptOnce (place : Place) (kept : List Place) : List Place :=
  match kept with
  | next :: others => if place.count = next.count then place :: others else place :: next :: others
  | [] => [place]

theorem furthest_eq (places : List Place) : furthest places =
    (places.mergeSort fun left right => left.count ≤ right.count).foldr keptOnce [] := rfl

theorem mem_keptOnce (inside : ∀ other ∈ place :: places, other.IsIn text) {last : Place} :
    last ∈ keptOnce place places ↔ last = place ∨ last ∈ places := by
  cases places with
  | nil => simp [keptOnce]
  | cons next others =>
    simp only [keptOnce]
    split
    next same =>
      have equal : place = next := (inside place (by simp)).eq_of_count (inside next (by simp)) same
      simp [equal]
    next => simp

theorem mem_foldr_keptOnce (inside : ∀ other ∈ places, other.IsIn text) {last : Place} :
    last ∈ places.foldr keptOnce [] ↔ last ∈ places := by
  induction places generalizing last with
  | nil => rfl
  | cons place rest ih =>
    rw [List.forall_mem_cons] at inside
    have members : ∀ {other}, other ∈ rest.foldr keptOnce [] ↔ other ∈ rest := ih inside.2
    have within : ∀ other ∈ place :: rest.foldr keptOnce [], other.IsIn text := by
      rw [List.forall_mem_cons]
      exact ⟨inside.1, fun other member => inside.2 other (members.mp member)⟩
    rw [List.foldr_cons, mem_keptOnce within, members, List.mem_cons]

theorem mem_furthest (inside : ∀ other ∈ places, other.IsIn text) {last : Place} :
    last ∈ furthest places ↔ last ∈ places := by
  have sorted : ∀ other ∈ places.mergeSort fun left right => left.count ≤ right.count,
      other.IsIn text := fun other member => inside other (List.mem_mergeSort.mp member)
  rw [furthest_eq, mem_foldr_keptOnce sorted, List.mem_mergeSort]

theorem keptOnce_sublist (place : Place) (places : List Place) :
    (keptOnce place places).Sublist (place :: places) := by
  cases places with
  | nil => exact .refl _
  | cons next others =>
    simp only [keptOnce]
    split
    next => exact (List.sublist_cons_self next others).cons_cons place
    next => exact .refl _

theorem foldr_keptOnce_sublist (places : List Place) :
    (places.foldr keptOnce []).Sublist places := by
  induction places with
  | nil => exact .refl _
  | cons place rest ih => exact (keptOnce_sublist place _).trans (ih.cons_cons place)

theorem furthest_sorted (places : List Place) :
    (furthest places).Pairwise fun left right => left.count ≤ right.count := by
  let isUpTo : Place → Place → Bool := fun left right => left.count ≤ right.count
  have transitive : ∀ one two three, isUpTo one two → isUpTo two three → isUpTo one three := by
    simpa [isUpTo] using fun one two three => Nat.le_trans
  have total : ∀ one two, isUpTo one two || isUpTo two one := by
    simpa [isUpTo] using fun one two => Nat.le_total _ _
  have sorted := List.pairwise_mergeSort transitive total places
  rw [furthest_eq]
  refine (sorted.sublist (foldr_keptOnce_sublist _)).imp ?_
  simp [isUpTo]

end Furthest

section Ends

variable {text : List Char} {step : List Place → List Place} {rel : Place → Place → Prop}
  (goesOn : GoesOn text rel)
  (steps : ∀ places, (∀ place ∈ places, place.IsIn text) →
    ∀ last, last ∈ step places ↔ ∃ place ∈ places, rel place last)

include goesOn steps

theorem mem_of_chain {places : List Place} (inside : ∀ place ∈ places, place.IsIn text)
    (closed : ∀ last ∈ step places, ∃ other ∈ places, other.count = last.count) {count : Nat}
    {place last : Place} (member : place ∈ places) (chain : Chain rel count place last) :
    last ∈ places := by
  induction count generalizing place with
  | zero => exact chain ▸ member
  | succ count ih =>
    obtain ⟨between, stepped, rest⟩ := chain
    have reached : between ∈ step places :=
      (steps places inside between).mpr ⟨place, member, stepped⟩
    obtain ⟨other, known, same⟩ := closed between reached
    have within := (goesOn place between (inside place member) stepped).1
    obtain rfl := (inside other known).eq_of_count within same
    exact ih known rest

theorem chain_leaves {places : List Place} (inside : ∀ place ∈ places, place.IsIn text)
    {count : Nat} {place last : Place} (member : place ∈ places)
    (chain : Chain rel count place last) :
    last ∈ places ∨ ∃ fresh ∈ step places, (∀ other ∈ places, other.count ≠ fresh.count) ∧
      ∃ fewer, fewer < count ∧ Chain rel fewer fresh last := by
  induction count generalizing place with
  | zero => exact .inl (chain ▸ member)
  | succ count ih =>
    obtain ⟨between, stepped, rest⟩ := chain
    by_cases known : ∃ other ∈ places, other.count = between.count
    · obtain ⟨other, there, same⟩ := known
      have within := (goesOn place between (inside place member) stepped).1
      obtain rfl := (inside other there).eq_of_count within same
      obtain ended | ⟨fresh, reached, new, fewer, bound, chain⟩ := ih there rest
      · exact .inl ended
      · exact .inr ⟨fresh, reached, new, fewer, Nat.lt_succ_of_lt bound, chain⟩
    · have reached := (steps places inside between).mpr ⟨place, member, stepped⟩
      refine .inr ⟨between, reached, fun other there same => known ⟨other, there, same⟩, ?_⟩
      exact ⟨count, Nat.lt_succ_self count, rest⟩

theorem mem_spread_free : ∀ (bound : Nat) (high : Option Nat) (places : List Place),
    (∀ place ∈ places, place.IsIn text ∧ place.count < bound) → ∀ last,
      last ∈ spread step bound high 0 places ↔
        ∃ place ∈ places, ∃ count, (∀ most ∈ high, count ≤ most) ∧ Chain rel count place last := by
  intro bound
  induction bound with
  | zero =>
    intro high places short last
    have none : places = [] :=
      List.eq_nil_iff_forall_not_mem.mpr fun place member => by simpa using (short place member).2
    simp [none, spread]
  | succ bound ih =>
    intro high places short last
    have inside : ∀ place ∈ places, place.IsIn text := fun place member => (short place member).1
    simp only [spread]
    split
    next zero =>
      subst zero
      constructor
      · exact fun member => ⟨last, member, 0, by simp, rfl⟩
      · rintro ⟨place, member, count, most, chain⟩
        obtain rfl : count = 0 := by simpa using most
        exact chain ▸ member
    next goes =>
      have fresh_iff : ∀ place, place ∈ (step places).filter (fun place =>
          !places.any fun other => other.count = place.count) ↔
          place ∈ step places ∧ ∀ other ∈ places, other.count ≠ place.count := by
        simp
      split
      next none =>
        constructor
        · exact fun member => ⟨last, member, 0, by simp, rfl⟩
        · rintro ⟨place, member, count, most, chain⟩
          refine mem_of_chain goesOn steps inside (fun fresh reached => ?_) member chain
          by_contra unknown
          have left := (fresh_iff fresh).mpr
            ⟨reached, fun other there same => unknown ⟨other, there, same⟩⟩
          rw [List.isEmpty_iff.mp none] at left
          cases left
      next some =>
        have further : ∀ place ∈ (step places).filter (fun place =>
            !places.any fun other => other.count = place.count),
            place.IsIn text ∧ place.count < bound := by
          intro place member
          obtain ⟨reached, new⟩ := (fresh_iff place).mp member
          obtain ⟨origin, known, stepped⟩ := (steps places inside place).mp reached
          obtain ⟨within, behind⟩ := goesOn origin place (inside origin known) stepped
          have limit := (short origin known).2
          have differs := new origin known
          exact ⟨within, by omega⟩
        rw [List.mem_append, ih _ _ further]
        constructor
        · rintro (member | ⟨fresh, member, count, most, chain⟩)
          · exact ⟨last, member, 0, by simp, rfl⟩
          · obtain ⟨reached, _⟩ := (fresh_iff fresh).mp member
            obtain ⟨origin, known, stepped⟩ := (steps places inside fresh).mp reached
            refine ⟨origin, known, count + 1, ?_, fresh, stepped, chain⟩
            rintro upper rfl
            have positive : upper ≠ 0 := fun zero => goes (by rw [zero])
            have below := most (upper - 1) rfl
            omega
        · rintro ⟨place, member, count, most, chain⟩
          obtain known | ⟨fresh, reached, new, fewer, bound, rest⟩ :=
            chain_leaves goesOn steps inside member chain
          · exact .inl known
          · refine .inr ⟨fresh, (fresh_iff fresh).mpr ⟨reached, new⟩, fewer, ?_, rest⟩
            intro upper limited
            obtain ⟨limit, rfl, rfl⟩ := Option.map_eq_some_iff.mp limited
            have below := most limit rfl
            omega

theorem mem_spread (bound : Nat) (high : Option Nat) (low : Nat)
    (ordered : ∀ most ∈ high, low ≤ most) (places : List Place)
    (short : ∀ place ∈ places, place.IsIn text ∧ place.count + low < bound) (last : Place) :
    last ∈ spread step bound high low places ↔
      ∃ place ∈ places, ∃ count, low ≤ count ∧ (∀ most ∈ high, count ≤ most) ∧
        Chain rel count place last := by
  induction low generalizing bound high places with
  | zero => simpa using mem_spread_free goesOn steps bound high places short last
  | succ low ih =>
    cases bound with
    | zero =>
      have none : places = [] :=
        List.eq_nil_iff_forall_not_mem.mpr fun place member => by simpa using (short place member).2
      simp [none, spread]
    | succ bound =>
      have inside : ∀ place ∈ places, place.IsIn text := fun place member => (short place member).1
      have further : ∀ place ∈ step places, place.IsIn text ∧ place.count + low < bound := by
        intro place reached
        obtain ⟨origin, known, stepped⟩ := (steps places inside place).mp reached
        obtain ⟨within, behind⟩ := goesOn origin place (inside origin known) stepped
        have limit := (short origin known).2
        exact ⟨within, by omega⟩
      have fewer : ∀ most ∈ high.map (· - 1), low ≤ most := by
        intro most limited
        obtain ⟨limit, rfl, rfl⟩ := Option.map_eq_some_iff.mp limited
        have below := ordered limit rfl
        omega
      rw [spread, ih bound _ fewer _ further]
      constructor
      · rintro ⟨between, reached, count, least, most, chain⟩
        obtain ⟨origin, known, stepped⟩ := (steps places inside between).mp reached
        refine ⟨origin, known, count + 1, by omega, ?_, between, stepped, chain⟩
        rintro upper rfl
        have below := most (upper - 1) rfl
        have enough := ordered upper rfl
        omega
      · rintro ⟨place, member, _ | count, least, most, chain⟩
        · omega
        · obtain ⟨between, stepped, rest⟩ := chain
          refine ⟨between, (steps places inside between).mpr ⟨place, member, stepped⟩, count,
            by omega, ?_, rest⟩
          intro upper limited
          obtain ⟨limit, rfl, rfl⟩ := Option.map_eq_some_iff.mp limited
          have below := most limit rfl
          omega

end Ends

theorem le_foldl_max (numbers : List Nat) (start : Nat) :
    start ≤ numbers.foldl max start ∧ ∀ number ∈ numbers, number ≤ numbers.foldl max start := by
  induction numbers generalizing start with
  | nil => exact ⟨Nat.le_refl _, by simp⟩
  | cons number rest ih =>
    obtain ⟨begun, others⟩ := ih (max start number)
    rw [List.foldl_cons, List.forall_mem_cons]
    exact ⟨by omega, by omega, others⟩

theorem mem_ends {text : List Char} (folds : Bool) {expression : Expression}
    (proper : expression.Proper) {places : List Place} (inside : ∀ place ∈ places, place.IsIn text)
    (last : Place) :
    last ∈ expression.ends folds places ↔
      ∃ place ∈ places, Spans folds expression place last := by
  induction expression generalizing places last with
  | nothing => simp [ends, Spans]
  | anyCharacter => simp [ends, Spans]
  | exactly => simp [ends, Spans]
  | oneOf => simp [ends, Spans]
  | edge kind =>
    simp only [ends, Spans, List.mem_filter]
    constructor
    · exact fun ⟨member, there⟩ => ⟨last, member, rfl, there⟩
    · rintro ⟨place, member, rfl, there⟩
      exact ⟨member, there⟩
  | again => exact proper.elim
  | group number body ih => exact ih proper inside last
  | both one two ihOne ihTwo =>
    have between : ∀ place ∈ ends folds one places, place.IsIn text := by
      intro place reached
      obtain ⟨origin, known, spans⟩ := (ihOne proper.1 inside place).mp reached
      exact (spans_goesOn text folds one origin place (inside origin known) spans).1
    rw [ends, ihTwo proper.2 between]
    constructor
    · rintro ⟨middle, reached, ended⟩
      obtain ⟨origin, known, begun⟩ := (ihOne proper.1 inside middle).mp reached
      exact ⟨origin, known, middle, begun, ended⟩
    · rintro ⟨origin, known, middle, begun, ended⟩
      exact ⟨middle, (ihOne proper.1 inside middle).mpr ⟨origin, known, begun⟩, ended⟩
  | either one two ihOne ihTwo =>
    have members : ∀ place, place ∈ ends folds one places ++ ends folds two places ↔
        ∃ origin ∈ places, Spans folds (either one two) origin place := by
      intro place
      rw [List.mem_append, ihOne proper.1 inside, ihTwo proper.2 inside, ← exists_or]
      exact exists_congr fun origin => and_or_left.symm
    have reached : ∀ place ∈ ends folds one places ++ ends folds two places,
        place.IsIn text := by
      intro place member
      obtain ⟨origin, known, spans⟩ := (members place).mp member
      exact (spans_goesOn text folds _ origin place (inside origin known) spans).1
    rw [ends, mem_furthest reached, members]
  | repeated low high body ih =>
    have steps : ∀ places, (∀ place ∈ places, place.IsIn text) → ∀ last,
        last ∈ ends folds body places ↔ ∃ place ∈ places, Spans folds body place last :=
      fun places inside last => ih proper.2 inside last
    have goesOn := spans_goesOn text folds body
    have short : ∀ place ∈ places, place.IsIn text ∧
        place.count + low < (places.map Place.count).foldl max 0 + low + 2 := by
      intro place member
      have bound := (le_foldl_max (places.map Place.count) 0).2 place.count
        (List.mem_map_of_mem member)
      exact ⟨inside place member, by omega⟩
    have members := mem_spread goesOn steps _ high low proper.1 places short
    have reached : ∀ place ∈ spread (ends folds body)
        ((places.map Place.count).foldl max 0 + low + 2) high low places, place.IsIn text := by
      intro place member
      obtain ⟨origin, known, count, _, _, chain⟩ := (members place).mp member
      exact (goesOn.chain count origin place (inside origin known) chain).1
    rw [ends, mem_furthest reached, members]
    rfl

section Walking

variable {text : List Char} {folds : Bool} {next : Continuation} {last : Place}

/-- What is to follow succeeds at a place, whatever the groups have held. -/
def Succeeds (next : Continuation) (last : Place) : Prop := ∀ held, (next last held).isSome = true

theorem repeatedly_isSome {step : Place → Held → Continuation → Option Held}
    {rel : Place → Place → Prop} (goesOn : GoesOn text rel)
    (steps : ∀ first last held next, first.IsIn text → rel first last → Succeeds next last →
      (step first held next).isSome = true) (ends : Succeeds next last) :
    ∀ (bound low : Nat) (high : Option Nat) (count : Nat) (place : Place) (held : Held),
      place.IsIn text → place.count + low < bound → low ≤ count → (∀ most ∈ high, count ≤ most) →
      Chain rel count place last →
      (repeatedly step next bound low high place held).isSome = true := by
  intro bound
  induction bound with
  | zero => exact fun low high count place held inside short => absurd short (by omega)
  | succ bound ih =>
    intro low high count
    -- A step that stays where it is counts only as long as some steps are owed.
    induction count with
    | zero =>
      rintro place held inside short least most rfl
      obtain rfl : low = 0 := Nat.le_zero.mp least
      simp only [repeatedly, if_true]
      rw [Option.orElse_eq_or, Option.isSome_or, ends held, Bool.or_true]
    | succ count shorter =>
      rintro place held inside short least most ⟨between, stepped, rest⟩
      obtain ⟨within, further⟩ := goesOn place between inside stepped
      by_cases idle : between.count = place.count ∧ low = 0
      · obtain ⟨same, rfl⟩ := idle
        obtain rfl := within.eq_of_count inside same
        exact shorter between held inside short (Nat.zero_le count)
          (fun upper limited => Nat.le_of_succ_le (most upper limited)) rest
      · have allowed : high ≠ some 0 := by
          rintro rfl
          exact absurd (most 0 rfl) (by omega)
        have onward : Succeeds (fun last held =>
            if last.count = place.count && low = 0 then none
            else repeatedly step next bound (low - 1) (high.map (· - 1)) last held) between := by
          intro held
          have moves : (decide (between.count = place.count) && decide (low = 0)) = false := by
            simpa using idle
          simp only [moves]
          refine ih (low - 1) _ count between held within (by omega) (by omega) ?_ rest
          intro upper limited
          obtain ⟨limit, rfl, rfl⟩ := Option.map_eq_some_iff.mp limited
          have below := most limit rfl
          omega
        simp only [repeatedly, if_neg allowed]
        rw [Option.orElse_eq_or, Option.isSome_or,
          steps place between held _ inside stepped onward, Bool.true_or]

theorem walk_isSome {expression : Expression} (proper : expression.Proper) {first : Place}
    (held : Held) (inside : first.IsIn text) (spans : Spans folds expression first last)
    (ends : Succeeds next last) : (walk folds expression first held next).isSome = true := by
  induction expression generalizing first last held next with
  | nothing => exact spans ▸ ends held
  | anyCharacter | exactly | oneOf =>
    simp only [Spans] at spans
    simp only [walk, spans, Option.bind_some]
    exact ends held
  | edge kind =>
    obtain ⟨rfl, there⟩ := spans
    simp only [walk, there, if_true]
    exact ends held
  | again => exact proper.elim
  | group number body ih => exact ih proper held inside spans fun _ => ends _
  | both one two ihOne ihTwo =>
    obtain ⟨between, begun, ended⟩ := spans
    have within := (spans_goesOn text folds one first between inside begun).1
    exact ihOne proper.1 held inside begun fun held => ihTwo proper.2 held within ended ends
  | either one two ihOne ihTwo =>
    rw [walk, Option.orElse_eq_or, Option.isSome_or, Bool.or_eq_true]
    exact spans.imp (fun spans => ihOne proper.1 held inside spans ends)
      fun spans => ihTwo proper.2 held inside spans ends
  | repeated low high body ih =>
    obtain ⟨count, least, most, chain⟩ := spans
    exact repeatedly_isSome (spans_goesOn text folds body)
      (fun first last held next inside spans ends => ih proper.2 held inside spans ends) ends
      _ low high count first held inside (by omega) least most chain

end Walking

section Finding

variable {folds : Bool} {expression : Expression}

/-- An expression stands for a part of a text, behind one part and in front of another. -/
def StandsFor (folds : Bool) (expression : Expression) (before matched after : List Char) : Prop :=
  Spans folds expression (.between before (matched ++ after)) (.between (before ++ matched) after)

theorem spans_between {before rest : List Char} {last : Place}
    (spans : Spans folds expression (.between before rest) last) :
    ∃ matched after, rest = matched ++ after ∧ last = .between (before ++ matched) after := by
  have begun : (Place.between before rest).IsIn (before ++ rest) := ⟨before, rest, rfl, rfl⟩
  obtain ⟨⟨front, after, split, rfl⟩, further⟩ :=
    spans_goesOn (before ++ rest) folds expression _ _ begun spans
  have short : after.length ≤ rest.length := further
  obtain ⟨matched, rfl, rfl⟩ | ⟨passed, rfl, rfl⟩ := List.append_eq_append_iff.mp split
  · exact ⟨matched, after, rfl, rfl⟩
  · rw [List.length_append] at short
    obtain rfl : passed = [] := List.eq_nil_of_length_eq_zero (by omega)
    exact ⟨[], rest, rfl, by simp⟩

theorem refers_of_proper (proper : expression.Proper) : expression.refers = false := by
  induction expression with
  | again => exact proper.elim
  | group number body ih => exact ih proper
  | both one two ihOne ihTwo | either one two ihOne ihTwo =>
    rw [refers, ihOne proper.1, ihTwo proper.2, Bool.or_false]
  | repeated low high body ih => exact ih proper.2
  | _ => rfl

section Attempt

variable (folds) (proper : expression.Proper) (passed text : List Char)

include proper

theorem candidates_eq (place : Place) :
    expression.candidates folds place = furthest (expression.ends folds [place]) := by
  rw [candidates, refers_of_proper proper, if_neg Bool.false_ne_true]

theorem mem_candidates (last : Place) :
    last ∈ expression.candidates folds (.between passed text) ↔
      Spans folds expression (.between passed text) last := by
  have inside : (Place.between passed text).IsIn (passed ++ text) := ⟨passed, text, rfl, rfl⟩
  have begun : ∀ place ∈ [Place.between passed text], place.IsIn (passed ++ text) := by
    simpa using inside
  have reached : ∀ place ∈ expression.ends folds [Place.between passed text],
      place.IsIn (passed ++ text) := by
    intro place member
    obtain ⟨_, origin, spans⟩ := (mem_ends folds proper begun place).mp member
    rw [List.mem_singleton.mp origin] at spans
    exact (spans_goesOn _ folds expression _ place inside spans).1
  rw [candidates_eq folds proper, mem_furthest reached, mem_ends folds proper begun]
  simp

theorem attempt_cases :
    (findFrom.attempt folds (fun _ _ => true) expression passed text = none ∧
      ∀ matched after, text = matched ++ after →
        ¬ StandsFor folds expression passed.reverse matched after) ∨
    ∃ matched after held, findFrom.attempt folds (fun _ _ => true) expression passed text =
        some ⟨passed.reverse, matched, after, held⟩ ∧ text = matched ++ after ∧
      StandsFor folds expression passed.reverse matched after ∧
      ∀ other rest, text = other ++ rest →
        StandsFor folds expression passed.reverse other rest → other.length ≤ matched.length := by
  have front : (⟨passed.head?, text, text.length⟩ : Place) = .between passed.reverse text := by
    rw [Place.between, List.getLast?_reverse]
  have members := mem_candidates folds proper passed.reverse text
  have sorted := furthest_sorted (expression.ends folds [Place.between passed.reverse text])
  rw [← candidates_eq folds proper] at sorted
  simp only [findFrom.attempt, front, List.filter_true]
  cases ended : expression.candidates folds (.between passed.reverse text) with
  | nil =>
    refine .inl ⟨rfl, fun matched after split stands => ?_⟩
    subst split
    have member := (members _).mpr stands
    rw [ended] at member
    cases member
  | cons last others =>
    rw [ended] at members sorted
    have spans := (members last).mp List.mem_cons_self
    obtain ⟨matched, after, rfl, rfl⟩ := spans_between spans
    have inside : (Place.between passed.reverse (matched ++ after)).IsIn
        (passed.reverse ++ (matched ++ after)) := ⟨passed.reverse, matched ++ after, rfl, rfl⟩
    have arrives : Succeeds (fun reached held =>
        if reached.count = (Place.between (passed.reverse ++ matched) after).count then some held
        else none) (.between (passed.reverse ++ matched) after) := fun held => by simp
    obtain ⟨held, walked⟩ := Option.isSome_iff_exists.mp
      (walk_isSome proper [] inside spans arrives)
    refine .inr ⟨matched, after, held, ?_, rfl, spans, fun other rest split stands => ?_⟩
    · rw [List.findSome?_cons, walked]
      simp [Place.between]
    · have member := (members (.between (passed.reverse ++ other) rest)).mpr (split ▸ stands)
      have lengths := congrArg List.length split
      rw [List.length_append, List.length_append] at lengths
      obtain same | later := List.mem_cons.mp member
      · have equal : rest.length = after.length := congrArg Place.count same
        omega
      · have least : after.length ≤ rest.length := (List.pairwise_cons.mp sorted).1 _ later
        omega

end Attempt

/-- What is found behind so many characters of a text begins as early there as anything that the
expression stands for, and is the longest that begins there. -/
structure IsFirst (folds : Bool) (expression : Expression) (text : List Char) (start : Nat)
    (found : Found) : Prop where
  whole : text = found.before ++ found.matched ++ found.after
  behind : start ≤ found.before.length
  stands : StandsFor folds expression found.before found.matched found.after
  first : ∀ before matched after, text = before ++ matched ++ after → start ≤ before.length →
    StandsFor folds expression before matched after → found.before.length ≤ before.length ∧
      (found.before.length = before.length → matched.length ≤ found.matched.length)

/-- Nothing is found behind so many characters only if the expression stands for nothing there. -/
def IsAbsent (folds : Bool) (expression : Expression) (text : List Char) (start : Nat) : Prop :=
  ∀ before matched after, text = before ++ matched ++ after → start ≤ before.length →
    ¬ StandsFor folds expression before matched after

theorem front_of_length {passed text before matched after : List Char}
    (split : passed.reverse ++ text = before ++ matched ++ after)
    (same : before.length = passed.length) : before = passed.reverse ∧ text = matched ++ after := by
  rw [List.append_assoc] at split
  obtain ⟨front, rest⟩ := List.append_inj split (by rw [List.length_reverse, same])
  exact ⟨front.symm, rest⟩

theorem isAbsent_of_next {passed rest : List Char} {character : Char}
    (unmatched : ∀ matched after, character :: rest = matched ++ after →
      ¬ StandsFor folds expression passed.reverse matched after)
    (absent : IsAbsent folds expression ((character :: passed).reverse ++ rest)
      (passed.length + 1)) :
    IsAbsent folds expression (passed.reverse ++ character :: rest) passed.length := by
  intro before matched after split bound stands
  obtain same | later := Nat.eq_or_lt_of_le bound
  · obtain ⟨rfl, tail⟩ := front_of_length split same.symm
    exact unmatched matched after tail stands
  · exact absent before matched after (by simpa using split) later stands

theorem IsFirst.of_next {passed rest : List Char} {character : Char} {found : Found}
    (unmatched : ∀ matched after, character :: rest = matched ++ after →
      ¬ StandsFor folds expression passed.reverse matched after)
    (first : IsFirst folds expression ((character :: passed).reverse ++ rest) (passed.length + 1)
      found) :
    IsFirst folds expression (passed.reverse ++ character :: rest) passed.length found := by
  refine ⟨by simpa using first.whole, Nat.le_of_succ_le first.behind, first.stands, ?_⟩
  intro before matched after split bound stands
  obtain same | later := Nat.eq_or_lt_of_le bound
  · obtain ⟨rfl, tail⟩ := front_of_length split same.symm
    exact absurd stands (unmatched matched after tail)
  · exact first.first before matched after (by simpa using split) later stands

theorem isFirst_of_longest {passed matched after : List Char} {held : Held}
    (stands : StandsFor folds expression passed.reverse matched after)
    (longest : ∀ other rest, matched ++ after = other ++ rest →
      StandsFor folds expression passed.reverse other rest → other.length ≤ matched.length) :
    IsFirst folds expression (passed.reverse ++ (matched ++ after)) passed.length
      ⟨passed.reverse, matched, after, held⟩ := by
  refine ⟨(List.append_assoc _ _ _).symm, Nat.le_of_eq List.length_reverse.symm, stands, ?_⟩
  intro before other rest split bound same
  refine ⟨by simpa using bound, fun equal => ?_⟩
  obtain ⟨rfl, tail⟩ := front_of_length split (by simpa using equal.symm)
  exact longest other rest tail same

theorem findFrom_cases (proper : expression.Proper) (folds : Bool) (passed text : List Char) :
    (findFrom folds (fun _ _ => true) expression passed text = none ∧
      IsAbsent folds expression (passed.reverse ++ text) passed.length) ∨
    ∃ found, findFrom folds (fun _ _ => true) expression passed text = some found ∧
      IsFirst folds expression (passed.reverse ++ text) passed.length found := by
  induction text generalizing passed with
  | nil =>
    obtain ⟨tried, absent⟩ | ⟨matched, after, held, tried, split, stands, longest⟩ :=
      attempt_cases folds proper passed []
    · refine .inl ⟨tried, fun before matched after split bound stands => ?_⟩
      have lengths := congrArg List.length split
      simp only [List.length_append, List.length_reverse, List.length_nil] at lengths
      obtain ⟨rfl, tail⟩ := front_of_length split (by omega)
      exact absent matched after tail stands
    · rw [findFrom, tried, split]
      exact .inr ⟨_, rfl, isFirst_of_longest stands (split ▸ longest)⟩
  | cons character rest ih =>
    rw [findFrom, Option.orElse_eq_or]
    obtain ⟨tried, absent⟩ | ⟨matched, after, held, tried, split, stands, longest⟩ :=
      attempt_cases folds proper passed (character :: rest)
    · rw [tried, Option.none_or]
      exact (ih (character :: passed)).imp
        (fun ⟨missed, further⟩ => ⟨missed, isAbsent_of_next absent further⟩)
        fun ⟨found, met, first⟩ => ⟨found, met, first.of_next absent⟩
    · rw [tried, Option.some_or, split]
      exact .inr ⟨_, rfl, isFirst_of_longest stands (split ▸ longest)⟩

/-- What is found in a text begins as early as anything that the expression stands for, and is the
longest that begins there; nothing is found only if the expression stands for no part. -/
theorem find_first (proper : expression.Proper) (folds : Bool) (text : List Char) :
    (expression.find folds [] text = none ↔ IsAbsent folds expression text 0) ∧
    ∀ found, expression.find folds [] text = some found →
      IsFirst folds expression text 0 found := by
  obtain ⟨missed, absent⟩ | ⟨found, met, first⟩ := findFrom_cases proper folds [] text
  · refine ⟨⟨fun _ => absent, fun _ => missed⟩, fun other met => ?_⟩
    cases missed.symm.trans met
  · refine ⟨⟨fun missed => ?_, fun absent => ?_⟩, fun other also => ?_⟩
    · cases met.symm.trans missed
    · exact absurd first.stands (absent _ _ _ first.whole (Nat.zero_le _))
    · cases met.symm.trans also
      exact first

end Finding

end ChartManifests.Text.Expression
