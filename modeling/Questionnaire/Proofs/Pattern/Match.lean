/-
# Finding what a pattern describes

A pattern describes pieces of a text together with what stands before and after them. The
search works on all places of the text at once: a step takes a set of places to the places that
some piece leads to. Steps are followed relation by relation, and what needs care is only
repetition without a greatest number. There the search stops after as many rounds as the text
has places, which loses nothing, since a piece that does not advance can be left out.
-/

import Mathlib.Data.Nat.Bitwise
import Mathlib.Logic.Function.Iterate
import Questionnaire.Pattern.Match

namespace Questionnaire

/-! ## Sets of places -/

namespace PlaceSet

/-- A place is in the set of answers if the answer for it is yes. -/
theorem testBit_ofAnswers {answers : List Bool} {place : Nat} :
    (ofAnswers answers).testBit place = true ↔ answers[place]? = some true := by
  induction answers generalizing place with
  | nil => simp [ofAnswers]
  | cons answer rest ih =>
      rw [ofAnswers]
      cases place with
      | zero => cases answer <;> simp
      | succ place =>
          have half (value : Nat) : (2 * value + if answer = true then 1 else 0) / 2 = value := by
            split <;> omega
          rw [Nat.testBit_succ, half, ih, List.getElem?_cons_succ]

/-- Stopping early at a set that a step does not change makes no difference. -/
theorem iterate_eq (step : PlaceSet → PlaceSet) (count : Nat) (places : PlaceSet) :
    iterate step count places = step^[count] places := by
  induction count generalizing places with
  | zero => rfl
  | succ count ih =>
      rw [iterate]
      split
      · next fixed => exact (Function.iterate_fixed fixed (count + 1)).symm
      · rw [ih, Function.iterate_succ_apply]

end PlaceSet

/-! ## Steps and relations -/

/-- A number of steps of a relation between places. -/
def Steps (leads : Nat → Nat → Prop) : Nat → Nat → Nat → Prop
  | 0, start, stop => start = stop
  | count + 1, start, stop => ∃ next, leads start next ∧ Steps leads count next stop

section Steps

variable {leads : Nat → Nat → Prop} {start stop : Nat}

theorem steps_add {first second : Nat} :
    Steps leads (first + second) start stop ↔
      ∃ next, Steps leads first start next ∧ Steps leads second next stop := by
  induction first generalizing start with
  | zero => simp [Steps]
  | succ first ih =>
      rw [Nat.succ_add, Steps]
      simp only [ih, Steps]
      constructor
      · rintro ⟨near, step, next, front, back⟩
        exact ⟨next, ⟨near, step, front⟩, back⟩
      · rintro ⟨next, ⟨near, step, front⟩, back⟩
        exact ⟨near, step, next, front, back⟩

/-- Staying where one is may take the place of some steps. -/
theorem steps_eq_or {count : Nat} :
    Steps (fun near far => near = far ∨ leads near far) count start stop ↔
      ∃ fewer ≤ count, Steps leads fewer start stop := by
  induction count generalizing start with
  | zero => simp [Steps]
  | succ count ih =>
      constructor
      · rintro ⟨next, rfl | step, behind⟩
        · obtain ⟨fewer, few, steps⟩ := ih.mp behind
          exact ⟨fewer, few.trans (Nat.le_succ count), steps⟩
        · obtain ⟨fewer, few, steps⟩ := ih.mp behind
          exact ⟨fewer + 1, Nat.succ_le_succ few, next, step, steps⟩
      · rintro ⟨fewer, few, steps⟩
        cases fewer with
        | zero => exact ⟨start, Or.inl rfl, ih.mpr ⟨0, Nat.zero_le _, steps⟩⟩
        | succ fewer =>
            obtain ⟨next, step, behind⟩ := steps
            exact ⟨next, Or.inr step, ih.mpr ⟨fewer, Nat.le_of_succ_le_succ few, behind⟩⟩

/-- Steps that do not advance can be left out. -/
theorem exists_fewer_steps (forward : ∀ {near far}, leads near far → near ≤ far) {count : Nat}
    (steps : Steps leads count start stop) :
    start ≤ stop ∧ ∃ fewer ≤ stop - start, Steps leads fewer start stop := by
  induction count generalizing start with
  | zero =>
      obtain rfl := steps
      exact ⟨le_rfl, 0, Nat.zero_le _, rfl⟩
  | succ count ih =>
      obtain ⟨next, step, behind⟩ := steps
      obtain ⟨ahead, fewer, few, short⟩ := ih behind
      have advances := forward step
      refine ⟨advances.trans ahead, ?_⟩
      rcases advances.eq_or_lt with rfl | advances
      · exact ⟨fewer, few, short⟩
      · exact ⟨fewer + 1, by omega, next, step, short⟩

end Steps

/-- A number of pieces that a repetition allows. The least number counts even if the greatest
one is smaller. -/
def IsAllowed (least : Nat) (most : Option Nat) (count : Nat) : Prop :=
  least ≤ count ∧ ∀ bound ∈ most, count ≤ max least bound

/-- A step takes the places of a text that has so many characters to those that a relation
leads to, and the relation does not lead out of the text. -/
structure Takes (length : Nat) (step : PlaceSet → PlaceSet) (leads : Nat → Nat → Prop) :
    Prop where
  /-- The places after the step. -/
  image : ∀ places : PlaceSet, (∀ start, places.testBit start = true → start ≤ length) →
    ∀ stop, (step places).testBit stop = true ↔
      ∃ start, places.testBit start = true ∧ leads start stop
  /-- No place behind the text is reached. -/
  within : ∀ {start stop}, start ≤ length → leads start stop → stop ≤ length

namespace Takes

variable {length : Nat} {step next : PlaceSet → PlaceSet} {leads follows : Nat → Nat → Prop}

/-- Only places of the text matter. -/
theorem congr (takes : Takes length step leads)
    (same : ∀ start ≤ length, ∀ stop, leads start stop ↔ follows start stop) :
    Takes length step follows where
  image places inside stop := by
    rw [takes.image places inside]
    exact exists_congr fun start => and_congr_right fun member =>
      same start (inside start member) stop
  within inside leads' := takes.within inside ((same _ inside _).mpr leads')

theorem inside_image (takes : Takes length step leads) {places : PlaceSet}
    (inside : ∀ start, places.testBit start = true → start ≤ length) :
    ∀ stop, (step places).testBit stop = true → stop ≤ length := by
  intro stop member
  obtain ⟨start, isStart, leadsTo⟩ := (takes.image places inside stop).mp member
  exact takes.within (inside start isStart) leadsTo

/-- No step. -/
theorem refl (length : Nat) : Takes length id (· = ·) where
  image places _ stop := by simp
  within inside same := same ▸ inside

/-- One step and then another. -/
theorem comp (takes : Takes length step leads) (takes' : Takes length next follows) :
    Takes length (fun places => next (step places))
      (fun start stop => ∃ middle, leads start middle ∧ follows middle stop) where
  image places inside stop := by
    rw [takes'.image _ (takes.inside_image inside)]
    constructor
    · rintro ⟨middle, member, back⟩
      obtain ⟨start, isStart, front⟩ := (takes.image places inside middle).mp member
      exact ⟨start, isStart, middle, front, back⟩
    · rintro ⟨start, isStart, middle, front, back⟩
      exact ⟨middle, (takes.image places inside middle).mpr ⟨start, isStart, front⟩, back⟩
  within inside := by
    rintro ⟨middle, front, back⟩
    exact takes'.within (takes.within inside front) back

/-- The places of two steps together. -/
theorem either (takes : Takes length step leads) (takes' : Takes length next follows) :
    Takes length (fun places => step places ||| next places)
      (fun start stop => leads start stop ∨ follows start stop) where
  image places inside stop := by
    rw [Nat.testBit_or, Bool.or_eq_true_iff, takes.image places inside,
      takes'.image places inside, ← exists_or]
    exact exists_congr fun start => and_or_left.symm
  within inside := fun either => either.elim (takes.within inside) (takes'.within inside)

/-- A step several times over. -/
theorem iterate (takes : Takes length step leads) (count : Nat) :
    Takes length step^[count] (Steps leads count) := by
  induction count with
  | zero => exact refl length
  | succ count ih => exact takes.comp ih

/-- A step at most so many times over. -/
theorem grow (takes : Takes length step leads) (count : Nat) :
    Takes length (fun found => found ||| step found)^[count]
      (fun start stop => ∃ fewer ≤ count, Steps leads fewer start stop) :=
  (((refl length).either takes).iterate count).congr fun _ _ _ => steps_eq_or

/-- A step as often as a repetition allows. Without a greatest number it is enough to take it
once for every place of the text. -/
theorem repeated (takes : Takes length step leads)
    (forward : ∀ {near far}, leads near far → near ≤ far) (least : Nat) (most : Option Nat) :
    Takes length
      (fun places => PlaceSet.iterate (fun found => found ||| step found)
        ((most.map (fun bound => bound - least)).getD (length + 1))
        (PlaceSet.iterate step least places))
      (fun start stop => ∃ count, IsAllowed least most count ∧ Steps leads count start stop) := by
  simp only [PlaceSet.iterate_eq]
  have whole := (takes.iterate least).comp
    (takes.grow ((most.map (fun bound => bound - least)).getD (length + 1)))
  refine whole.congr ?_
  intro start inside stop
  constructor
  · rintro ⟨middle, front, extra, few, back⟩
    refine ⟨least + extra, ⟨Nat.le_add_right _ _, ?_⟩, steps_add.mpr ⟨middle, front, back⟩⟩
    rintro bound ⟨⟩
    have few : extra ≤ bound - least := few
    omega
  · rintro ⟨count, ⟨enough, bounded⟩, steps⟩
    obtain ⟨extra, rfl⟩ := Nat.exists_eq_add_of_le enough
    obtain ⟨middle, front, back⟩ := steps_add.mp steps
    cases most with
    | none =>
        obtain ⟨_, fewer, few, short⟩ := exists_fewer_steps forward back
        have reached := (takes.iterate least).within inside front
        have stays := (takes.iterate extra).within reached back
        refine ⟨middle, front, fewer, ?_, short⟩
        show fewer ≤ length + 1
        omega
    | some bound =>
        have most := bounded bound rfl
        refine ⟨middle, front, extra, ?_, back⟩
        show extra ≤ bound - least
        omega

end Takes

/-! ## Pieces and where they stand -/

/-- A relation between a piece of a text and what stands before and after it. -/
abbrev Standing := List Char → List Char → List Char → Prop

namespace Standing

/-- A piece of the first kind and then one of the second. -/
def andThen (first second : Standing) : Standing := fun before piece after =>
  ∃ front back, piece = front ++ back ∧ first before front (back ++ after) ∧
    second (before ++ front) back after

/-- So many pieces of a kind in a row. -/
def inRow (standing : Standing) : Nat → Standing
  | 0 => fun _ piece _ => piece = []
  | count + 1 => standing.andThen (standing.inRow count)

/-- It makes no difference which two of three pieces are taken together. -/
theorem andThen_assoc (first second third : Standing) :
    (first.andThen second).andThen third = first.andThen (second.andThen third) := by
  funext before piece after
  refine propext ⟨?_, ?_⟩
  · rintro ⟨_, back, rfl, ⟨front, middle, rfl, isFirst, isSecond⟩, isThird⟩
    refine ⟨front, middle ++ back, List.append_assoc _ _ _, ?_, middle, back, rfl, isSecond, ?_⟩
    · rwa [List.append_assoc]
    · rwa [List.append_assoc]
  · rintro ⟨front, _, rfl, isFirst, middle, back, rfl, isSecond, isThird⟩
    refine ⟨front ++ middle, back, (List.append_assoc _ _ _).symm,
      ⟨front, middle, rfl, ?_, isSecond⟩, ?_⟩
    · rwa [← List.append_assoc]
    · rwa [← List.append_assoc]

/-- Pieces that are told by their characters alone stand in a row if the whole can be cut into
so many of them. -/
theorem inRow_iff {standing : Standing} {kind : List Char → Prop}
    (free : ∀ before piece after, standing before piece after ↔ kind piece) {count : Nat}
    {before piece after : List Char} :
    standing.inRow count before piece after ↔
      ∃ pieces : List (List Char), pieces.length = count ∧ piece = pieces.flatten ∧
        ∀ part ∈ pieces, kind part := by
  induction count generalizing before piece with
  | zero =>
      constructor
      · intro empty
        exact ⟨[], rfl, empty, by simp⟩
      · rintro ⟨pieces, none, rfl, _⟩
        rw [List.eq_nil_of_length_eq_zero none]
        rfl
  | succ count ih =>
      constructor
      · rintro ⟨front, back, rfl, first, others⟩
        obtain ⟨pieces, rfl, rfl, kinds⟩ := ih.mp others
        exact ⟨front :: pieces, rfl, rfl,
          List.forall_mem_cons.mpr ⟨(free _ _ _).mp first, kinds⟩⟩
      · rintro ⟨pieces, length, rfl, kinds⟩
        obtain ⟨front, others, rfl⟩ := List.exists_cons_of_length_eq_add_one length
        obtain ⟨first, kinds⟩ := List.forall_mem_cons.mp kinds
        exact ⟨front, others.flatten, rfl, (free _ _ _).mpr first,
          ih.mpr ⟨others, Nat.succ.inj length, rfl, kinds⟩⟩

/-- A piece of a text from one place to another. -/
def Between (standing : Standing) (text : List Char) (start stop : Nat) : Prop :=
  ∃ before piece after, text = before ++ piece ++ after ∧ before.length = start ∧
    (before ++ piece).length = stop ∧ standing before piece after

section Between

variable {standing first second : Standing} {text : List Char} {start stop : Nat}

theorem Between.le (between : standing.Between text start stop) : start ≤ stop := by
  obtain ⟨before, piece, after, _, rfl, rfl, _⟩ := between
  exact (List.prefix_append before piece).length_le

theorem Between.le_length (between : standing.Between text start stop) : stop ≤ text.length := by
  obtain ⟨before, piece, after, rfl, _, rfl, _⟩ := between
  exact (List.prefix_append (before ++ piece) after).length_le

/-- An empty piece starts and ends at the same place. -/
theorem between_empty {holds : List Char → List Char → Prop} :
    Between (fun before piece after => piece = [] ∧ holds before after) text start stop ↔
      start = stop ∧ start ≤ text.length ∧ holds (text.take start) (text.drop start) := by
  constructor
  · rintro ⟨before, _, after, rfl, rfl, rfl, rfl, met⟩
    simpa using met
  · rintro ⟨rfl, inside, met⟩
    refine ⟨text.take start, [], text.drop start, ?_, ?_, ?_, rfl, met⟩
    · rw [List.append_nil, List.take_append_drop]
    · exact List.length_take_of_le inside
    · rw [List.append_nil, List.length_take_of_le inside]

theorem between_nil (inside : start ≤ text.length) :
    Between (fun _ piece _ => piece = []) text start stop ↔ start = stop := by
  have always : Between (fun _ piece _ => piece = [] ∧ True) text start stop ↔
      start = stop ∧ start ≤ text.length ∧ True := between_empty
  simpa [inside] using always

/-- A piece of two parts has a place between them. -/
theorem between_andThen :
    (first.andThen second).Between text start stop ↔
      ∃ middle, first.Between text start middle ∧ second.Between text middle stop := by
  constructor
  · rintro ⟨before, _, after, rfl, rfl, rfl, front, back, rfl, isFirst, isSecond⟩
    refine ⟨(before ++ front).length, ⟨before, front, back ++ after, ?_, rfl, rfl, isFirst⟩,
      before ++ front, back, after, ?_, rfl, ?_, isSecond⟩
    all_goals simp only [List.append_assoc]
  · rintro ⟨_, ⟨before, front, rest, rfl, rfl, rfl, isFirst⟩, other, back, after, same, sameLength,
      rfl, isSecond⟩
    rw [List.append_assoc other] at same
    obtain ⟨rfl, rfl⟩ := List.append_inj same sameLength.symm
    refine ⟨before, front ++ back, after, ?_, rfl, ?_, front, back, rfl, isFirst, isSecond⟩
    all_goals simp only [List.append_assoc]

/-- One character that passes a test. -/
theorem between_one {test : Char → Bool} :
    Between (fun _ piece _ => ∃ c, piece = [c] ∧ test c = true) text start stop ↔
      stop = start + 1 ∧ ∃ c, text[start]? = some c ∧ test c = true := by
  constructor
  · rintro ⟨before, _, after, rfl, rfl, rfl, c, rfl, passes⟩
    exact ⟨by simp, c, by simp, passes⟩
  · rintro ⟨rfl, c, found, passes⟩
    obtain ⟨inside, isCharacter⟩ := List.getElem?_eq_some_iff.mp found
    have length : (text.take start).length = start := List.length_take_of_le inside.le
    refine ⟨text.take start, [c], text.drop (start + 1), ?_, length, ?_, c, rfl, passes⟩
    · rw [List.append_assoc, List.singleton_append, ← isCharacter, List.getElem_cons_drop,
        List.take_append_drop]
    · rw [List.length_append, length, List.length_singleton]

theorem between_exists {kinds : Nat → Standing} {allowed : Nat → Prop} :
    Between (fun before piece after => ∃ kind, allowed kind ∧ kinds kind before piece after)
        text start stop ↔
      ∃ kind, allowed kind ∧ (kinds kind).Between text start stop := by
  constructor
  · rintro ⟨before, piece, after, whole, isStart, isStop, kind, isAllowed, stands⟩
    exact ⟨kind, isAllowed, before, piece, after, whole, isStart, isStop, stands⟩
  · rintro ⟨kind, isAllowed, before, piece, after, whole, isStart, isStop, stands⟩
    exact ⟨before, piece, after, whole, isStart, isStop, kind, isAllowed, stands⟩

theorem between_or :
    Between (fun before piece after => first before piece after ∨ second before piece after)
        text start stop ↔
      first.Between text start stop ∨ second.Between text start stop := by
  constructor
  · rintro ⟨before, piece, after, whole, isStart, isStop, isFirst | isSecond⟩
    · exact Or.inl ⟨before, piece, after, whole, isStart, isStop, isFirst⟩
    · exact Or.inr ⟨before, piece, after, whole, isStart, isStop, isSecond⟩
  · rintro (⟨before, piece, after, whole, isStart, isStop, isFirst⟩ |
      ⟨before, piece, after, whole, isStart, isStop, isSecond⟩)
    · exact ⟨before, piece, after, whole, isStart, isStop, Or.inl isFirst⟩
    · exact ⟨before, piece, after, whole, isStart, isStop, Or.inr isSecond⟩

/-- Pieces in a row are steps from place to place. -/
theorem between_inRow (count : Nat) (inside : start ≤ text.length) :
    (standing.inRow count).Between text start stop ↔
      Steps (standing.Between text) count start stop := by
  induction count generalizing start with
  | zero => exact between_nil inside
  | succ count ih =>
      rw [inRow, between_andThen, Steps]
      exact exists_congr fun middle => and_congr_right fun front => ih front.le_length

end Between

end Standing

namespace TextPattern

/-- What it means that a pattern describes a piece of a text. -/
def Stands : TextPattern → Standing
  | .empty => fun _ piece _ => piece = []
  | .one set => fun _ piece _ => ∃ c, piece = [c] ∧ set.contains c = true
  | .place condition => fun before piece after =>
    piece = [] ∧ condition.holds before.getLast? after.head? = true
  | .sequence first second => Standing.andThen (Stands first) (Stands second)
  | .choice first second => fun before piece after =>
    Stands first before piece after ∨ Stands second before piece after
  | .repeated body least most => fun before piece after =>
    ∃ count, IsAllowed least most count ∧ Standing.inRow (Stands body) count before piece after
  | .group body => Stands body

section Shapes

variable {set : CharacterSet} {body : TextPattern} {least : Nat} {most : Option Nat}
  {before piece after : List Char}

/-- Characters of a class, as many as a repetition allows. -/
theorem stands_repeated_one :
    Stands (.repeated (.one set) least most) before piece after ↔
      IsAllowed least most piece.length ∧ ∀ c ∈ piece, set.contains c = true := by
  have free (before piece after : List Char) : Stands (.one set) before piece after ↔
      ∃ c, piece = [c] ∧ set.contains c = true := Iff.rfl
  have row (count : Nat) : Standing.inRow (Stands (.one set)) count before piece after ↔
      piece.length = count ∧ ∀ c ∈ piece, set.contains c = true := by
    rw [Standing.inRow_iff free]
    constructor
    · rintro ⟨pieces, rfl, rfl, singles⟩
      induction pieces with
      | nil => simp
      | cons part others ih =>
          obtain ⟨⟨c, rfl, isMember⟩, otherSingles⟩ := List.forall_mem_cons.mp singles
          obtain ⟨length, areMembers⟩ := ih otherSingles
          exact ⟨congrArg (· + 1) length, List.forall_mem_cons.mpr ⟨isMember, areMembers⟩⟩
    · rintro ⟨rfl, areMembers⟩
      refine ⟨piece.map fun c => [c], List.length_map _, ?_, ?_⟩
      · rw [← List.flatMap_def, List.flatMap_singleton']
      · intro part member
        obtain ⟨c, inside, rfl⟩ := List.mem_map.mp member
        exact ⟨c, rfl, areMembers c inside⟩
  rw [Stands]
  simp only [row]
  constructor
  · rintro ⟨_, allowed, rfl, areMembers⟩
    exact ⟨allowed, areMembers⟩
  · rintro ⟨allowed, areMembers⟩
    exact ⟨_, allowed, rfl, areMembers⟩

/-- One piece or none. -/
theorem stands_optional :
    Stands (.optional body) before piece after ↔ piece = [] ∨ Stands body before piece after := by
  constructor
  · rintro ⟨count, ⟨_, few⟩, row⟩
    have few : count ≤ 1 := by simpa using few 1 rfl
    rcases Nat.le_one_iff_eq_zero_or_eq_one.mp few with rfl | rfl
    · exact Or.inl row
    · obtain ⟨front, _, rfl, stands, rfl⟩ := row
      rw [List.append_nil]
      exact Or.inr stands
  · rintro (empty | stands)
    · exact ⟨0, ⟨Nat.le_refl 0, by simp⟩, empty⟩
    · exact ⟨1, ⟨Nat.zero_le 1, by simp⟩, piece, [], (List.append_nil _).symm, stands, rfl⟩

/-- At least one piece of a kind that is told by its characters. -/
theorem stands_oneOrMore {kind : List Char → Prop}
    (free : ∀ before piece after, Stands body before piece after ↔ kind piece) :
    Stands (.oneOrMore body) before piece after ↔
      ∃ pieces : List (List Char), pieces ≠ [] ∧ piece = pieces.flatten ∧
        ∀ part ∈ pieces, kind part := by
  constructor
  · rintro ⟨count, ⟨positive, _⟩, row⟩
    obtain ⟨pieces, rfl, whole, kinds⟩ := (Standing.inRow_iff free).mp row
    exact ⟨pieces, List.length_pos_iff.mp positive, whole, kinds⟩
  · rintro ⟨pieces, nonempty, whole, kinds⟩
    exact ⟨pieces.length, ⟨List.length_pos_iff.mpr nonempty, by simp⟩,
      (Standing.inRow_iff free).mpr ⟨pieces, rfl, whole, kinds⟩⟩

end Shapes

/-! ## The search -/

/-- The characters before and after a place. -/
theorem surroundings_append (start : Option Char) (before after : List Char) :
    (surroundings start (before ++ after))[before.length]? =
      some (before.getLast?.or start, after.head?) := by
  induction before generalizing start with
  | nil => cases after <;> rfl
  | cons c rest ih =>
      have last : rest.getLast?.or (some c) = some (rest.getLast?.getD c) := by
        cases rest.getLast? <;> rfl
      rw [List.cons_append, surroundings, List.length_cons, List.getElem?_cons_succ, ih, last,
        List.getLast?_cons, Option.some_or]

theorem surroundings_get {text : List Char} {place : Nat} (inside : place ≤ text.length) :
    (surroundings none text)[place]? =
      some ((text.take place).getLast?, (text.drop place).head?) := by
  have found := surroundings_append none (text.take place) (text.drop place)
  rwa [List.take_append_drop, List.length_take_of_le inside, Option.or_none] at found

/-- A class is searched for as the places before its characters. -/
theorem testBit_class {set : CharacterSet} {text : List Char} {place : Nat} :
    (PlaceSet.ofAnswers (text.map set.contains)).testBit place = true ↔
      ∃ c, text[place]? = some c ∧ set.contains c = true := by
  rw [PlaceSet.testBit_ofAnswers, List.getElem?_map, Option.map_eq_some_iff]

/-- A condition is searched for as the places that meet it. -/
theorem testBit_condition {condition : PlaceCondition} {text : List Char} {place : Nat}
    (inside : place ≤ text.length) :
    (PlaceSet.ofAnswers ((surroundings none text).map
        (fun neighbours => condition.holds neighbours.1 neighbours.2))).testBit place = true ↔
      condition.holds (text.take place).getLast? (text.drop place).head? = true := by
  rw [PlaceSet.testBit_ofAnswers, List.getElem?_map, surroundings_get inside]
  simp

/-- The search takes every place to the ends of the pieces that start there. -/
theorem takes_ends (pattern : TextPattern) (text : List Char) :
    Takes text.length ((onText pattern text).ends text.length)
      ((Stands pattern).Between text) := by
  induction pattern with
  | empty => exact (Takes.refl _).congr fun _ inside _ => (Standing.between_nil inside).symm
  | one set =>
      refine ⟨?_, fun _ between => between.le_length⟩
      intro places _ stop
      show ((places &&& PlaceSet.ofAnswers (text.map set.contains)) <<< 1).testBit stop = true ↔ _
      rw [Nat.testBit_shiftLeft, Nat.testBit_and]
      simp only [Bool.and_eq_true, decide_eq_true_iff, testBit_class, Stands,
        Standing.between_one]
      constructor
      · rintro ⟨positive, member, found⟩
        exact ⟨stop - 1, member, by omega, found⟩
      · rintro ⟨start, member, rfl, found⟩
        exact ⟨by omega, member, found⟩
  | place condition =>
      refine ⟨?_, fun _ between => between.le_length⟩
      intro places inside stop
      show (places &&& PlaceSet.ofAnswers ((surroundings none text).map
        (fun neighbours => condition.holds neighbours.1 neighbours.2))).testBit stop = true ↔ _
      rw [Nat.testBit_and, Bool.and_eq_true]
      constructor
      · rintro ⟨member, met⟩
        have within := inside stop member
        exact ⟨stop, member,
          Standing.between_empty.mpr ⟨rfl, within, (testBit_condition within).mp met⟩⟩
      · rintro ⟨start, member, between⟩
        obtain ⟨rfl, within, met⟩ := Standing.between_empty.mp between
        exact ⟨member, (testBit_condition within).mpr met⟩
  | sequence first second ihFirst ihSecond =>
      exact (ihFirst.comp ihSecond).congr fun _ _ _ => Standing.between_andThen.symm
  | choice first second ihFirst ihSecond =>
      exact (ihFirst.either ihSecond).congr fun _ _ _ => Standing.between_or.symm
  | repeated body least most ih =>
      refine (ih.repeated Standing.Between.le least most).congr ?_
      intro start inside stop
      rw [Stands, Standing.between_exists]
      exact exists_congr fun count =>
        and_congr_right fun _ => (Standing.between_inRow count inside).symm
  | group body ih => exact ih

/-- A pattern is found in a text exactly if it describes some piece of it where it stands. -/
theorem occursIn_iff {pattern : TextPattern} {text : String} :
    occursIn pattern text = true ↔
      ∃ before piece after, text.toList = before ++ piece ++ after ∧
        Stands pattern before piece after := by
  have takes := takes_ends pattern text.toList
  have everywhere (place : Nat) :
      (Nat.pow 2 (text.toList.length + 1) - 1).testBit place = true ↔
        place ≤ text.toList.length := by
    rw [Nat.pow_eq, Nat.testBit_two_pow_sub_one, decide_eq_true_iff, Nat.lt_succ_iff]
  have found := takes.image (Nat.pow 2 (text.toList.length + 1) - 1)
    fun place => (everywhere place).mp
  rw [occursIn, bne_iff_ne]
  constructor
  · intro nonzero
    obtain ⟨stop, isEnd⟩ := Nat.exists_testBit_of_ne_zero nonzero
    obtain ⟨_, _, before, piece, after, whole, _, _, stands⟩ := (found stop).mp isEnd
    exact ⟨before, piece, after, whole, stands⟩
  · rintro ⟨before, piece, after, whole, stands⟩
    have between : (Stands pattern).Between text.toList before.length (before ++ piece).length :=
      ⟨before, piece, after, whole, rfl, rfl, stands⟩
    have isEnd := (found _).mpr
      ⟨before.length, (everywhere _).mpr (between.le.trans between.le_length), between⟩
    intro zero
    rw [zero, Nat.zero_testBit] at isEnd
    exact Bool.false_ne_true isEnd

/-- Patterns that describe the same pieces are found in the same texts. -/
theorem occursIn_congr {first second : TextPattern} (same : Stands first = Stands second)
    (text : String) : occursIn first text = occursIn second text := by
  rw [Bool.eq_iff_iff, occursIn_iff, occursIn_iff, same]

end TextPattern

end Questionnaire
