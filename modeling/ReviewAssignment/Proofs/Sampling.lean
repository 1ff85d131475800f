import ReviewAssignment.Proofs.Selection
import Mathlib.Data.List.Nodup
import Mathlib.Data.Set.Function

/-!
# Every sample is drawn in one way

A sample is taken out of a list element by element, each draw among the elements that are left.  So the
first draw has an alternative for every element, and each later one has an alternative less than the one
before it (`map_alternatives_sample`).

Out of different elements, every sample comes from exactly one sequence of choices (`bijOn_sample`): its
first element tells the first choice, and its other elements are a sample of what the first draw leaves.
This is why equally likely choices make all samples equally likely.

What is left after a draw is a list again because the first element moves into the gap.  Nothing is moved
but two entries, so that a sample is also what swaps in place leave at the front of an array
(`run_sample_eq_swappedInPlace`).
-/

namespace ReviewAssignment

variable {α β : Type}

/-- The listed numbers, one after the other, and then 0. -/
def Source.listed (picks : List Nat) : Source :=
  fun made => picks.getD made 0

namespace Draws

/-! ### Runs and their choices -/

/-- What a run takes from its source begins with the draws that are still to be made. -/
theorem run_succ (draws : Draws α) (source : Source) (made : Nat) :
    draws.run source (made + 1) = draws.run (fun count => source (count + 1)) made := by
  induction draws generalizing made with
  | done result => rfl
  | draw others next ih =>
    simp only [run]
    rw [ih]

theorem run_map (f : α → β) (draws : Draws α) (source : Source) (made : Nat) :
    (draws.map f).run source made =
      (f (draws.run source made).1, (draws.run source made).2) := by
  induction draws generalizing made with
  | done result => rfl
  | draw others next ih =>
    simp only [Draws.map, run]
    rw [ih]

/-- Every choice is one of its alternatives. -/
theorem chosen_lt_alternatives (draws : Draws α) (source : Source) (made : Nat) :
    ∀ drawn ∈ (draws.run source made).2, drawn.chosen < drawn.alternatives := by
  induction draws generalizing made with
  | done result => exact List.forall_mem_nil _
  | draw others next ih =>
    exact List.forall_mem_cons.2 ⟨(alternative (source made) others).isLt, ih _ _⟩

theorem alternative_of_lt {pick others : Nat} (hPick : pick < others + 1) :
    alternative pick others = ⟨pick, hPick⟩ :=
  Fin.ext (Nat.mod_eq_of_lt hPick)

theorem run_draw_listed {others : Nat} {next : Fin (others + 1) → Draws α} {pick : Nat}
    (hPick : pick < others + 1) (picks : List Nat) :
    (draw others next).run (Source.listed (pick :: picks)) 0 =
      (((next ⟨pick, hPick⟩).run (Source.listed picks) 0).1,
        ⟨others + 1, pick⟩ :: ((next ⟨pick, hPick⟩).run (Source.listed picks) 0).2) := by
  have hFirst : alternative (Source.listed (pick :: picks) 0) others = ⟨pick, hPick⟩ :=
    alternative_of_lt hPick
  rw [run, hFirst, run_succ]
  rfl

/-- A run is told by its choices. -/
theorem run_eq_run_listed (draws : Draws α) (source : Source) (made : Nat) :
    draws.run source made =
      draws.run (Source.listed ((draws.run source made).2.map Drawn.chosen)) 0 := by
  induction draws generalizing made with
  | done result => rfl
  | draw others next ih =>
    have hChoice := (alternative (source made) others).isLt
    refine Eq.trans ?_ (run_draw_listed hChoice _).symm
    rw [← ih]
    rfl

/-! ### Sequences of choices, and samples -/

/-- Choices without putting back: `amount` of them, the first out of `count` alternatives and each
other out of one less than the one before it. -/
def choices (count amount : Nat) : Set (List Nat) :=
  {picks | picks.length = amount ∧ ∀ i (h : i < picks.length), picks[i] < count - i}

/-- Samples of a list: `amount` of its elements, all different, in any order. -/
def samples (list : List α) (amount : Nat) : Set (List α) :=
  {drawn | drawn.length = amount ∧ drawn.Nodup ∧ ∀ element ∈ drawn, element ∈ list}

theorem choices_zero (count : Nat) : choices count 0 = {[]} := by
  ext picks
  constructor
  · exact fun hPicks => List.eq_nil_of_length_eq_zero hPicks.1
  · rintro rfl
    exact ⟨rfl, fun i h => absurd h (Nat.not_lt_zero i)⟩

theorem samples_zero (list : List α) : samples list 0 = {[]} := by
  ext drawn
  constructor
  · exact fun hDrawn => List.eq_nil_of_length_eq_zero hDrawn.1
  · rintro rfl
    exact ⟨rfl, List.nodup_nil, List.forall_mem_nil _⟩

theorem cons_mem_choices_iff {count amount pick : Nat} {picks : List Nat} :
    pick :: picks ∈ choices (count + 1) (amount + 1) ↔
      pick < count + 1 ∧ picks ∈ choices count amount := by
  constructor
  · rintro ⟨hLength, hRange⟩
    refine ⟨hRange 0 (Nat.zero_lt_succ _), Nat.succ.inj hLength, fun i h => ?_⟩
    have hNext := hRange (i + 1) (Nat.succ_lt_succ h)
    rwa [List.getElem_cons_succ, Nat.add_sub_add_right] at hNext
  · rintro ⟨hPick, hLength, hRange⟩
    refine ⟨congrArg Nat.succ hLength, fun i h => ?_⟩
    cases i with
    | zero => exact hPick
    | succ i =>
      rw [List.getElem_cons_succ, Nat.add_sub_add_right]
      exact hRange i (Nat.lt_of_succ_lt_succ h)

/-- A sample with a given first element goes on with a sample of the others. -/
theorem cons_mem_samples_iff {list left : List α} {element : α} {drawn : List α} {amount : Nat}
    (hDistinct : list.Nodup) (hSplit : (element :: left).Perm list) :
    element :: drawn ∈ samples list (amount + 1) ↔ drawn ∈ samples left amount := by
  obtain ⟨hTaken, -⟩ := List.nodup_cons.1 (hSplit.nodup_iff.2 hDistinct)
  constructor
  · rintro ⟨hLength, hNodup, hMem⟩
    obtain ⟨hOther, hNodup⟩ := List.nodup_cons.1 hNodup
    refine ⟨Nat.succ.inj hLength, hNodup, fun other hDrawn => ?_⟩
    rcases List.mem_cons.1 (hSplit.mem_iff.2 (hMem other (List.mem_cons_of_mem _ hDrawn))) with
      rfl | hLeft
    · exact absurd hDrawn hOther
    · exact hLeft
  · rintro ⟨hLength, hNodup, hMem⟩
    refine ⟨congrArg Nat.succ hLength, List.nodup_cons.2 ⟨fun hDrawn => hTaken (hMem _ hDrawn), hNodup⟩,
      List.forall_mem_cons.2 ⟨hSplit.subset List.mem_cons_self, fun other hDrawn => ?_⟩⟩
    exact hSplit.subset (List.mem_cons_of_mem _ (hMem other hDrawn))

/-! ### What a draw takes out -/

theorem fst_takeOut (first : α) {rest : List α} (place : Fin (rest.length + 1)) :
    (takeOut first rest place).1 = (first :: rest)[place] := by
  obtain ⟨index, hIndex⟩ := place
  cases index <;> rfl

/-- Of different elements each is taken out by one choice only. -/
theorem takeOut_injective {first : α} {rest : List α} (hDistinct : (first :: rest).Nodup)
    {place other : Fin (rest.length + 1)}
    (hSame : (takeOut first rest place).1 = (takeOut first rest other).1) : place = other := by
  rw [fst_takeOut, fst_takeOut] at hSame
  exact Fin.ext (hDistinct.getElem_inj_iff.1 hSame)

theorem exists_takeOut {first element : α} {rest : List α} (hMem : element ∈ first :: rest) :
    ∃ place, (takeOut first rest place).1 = element := by
  obtain ⟨index, hIndex, hElement⟩ := List.getElem_of_mem hMem
  exact ⟨⟨index, hIndex⟩, (fst_takeOut first _).trans hElement⟩

/-! ### The draws of a sample -/

/-- **The draws of a sample**: as many as there are elements to be drawn, the first out of all elements and
each other out of one less. -/
theorem map_alternatives_sample (amount : Nat) (list : List α) (source : Source) (made : Nat) :
    ((sample amount list).run source made).2.map Drawn.alternatives =
      (List.range (min amount list.length)).map fun i => list.length - i := by
  induction amount generalizing list made with
  | zero => rw [Nat.zero_min]; rfl
  | succ amount ih =>
    cases list with
    | nil => rfl
    | cons first rest =>
      simp only [sample, run, run_map, List.map_cons, ih, length_takeOut, List.length_cons]
      rw [Nat.succ_min_succ, List.range_succ_eq_map, List.map_cons, List.map_map]
      refine congrArg _ (List.map_congr_left fun i _ => ?_)
      exact (Nat.add_sub_add_right rest.length 1 i).symm

/-- The choices of a sample are choices without putting back. -/
theorem map_chosen_mem_choices (amount : Nat) (list : List α) (source : Source) (made : Nat) :
    ((sample amount list).run source made).2.map Drawn.chosen ∈
      choices list.length (min amount list.length) := by
  have hAlternatives := map_alternatives_sample amount list source made
  have hRange := chosen_lt_alternatives (sample amount list) source made
  generalize ((sample amount list).run source made).2 = drawn at hAlternatives hRange
  have hLength : drawn.length = min amount list.length := by
    rw [← List.length_map Drawn.alternatives, hAlternatives, List.length_map, List.length_range]
  refine ⟨(List.length_map _).trans hLength, fun i h => ?_⟩
  rw [List.length_map] at h
  have hOut : drawn[i].alternatives = list.length - i := by
    have hGet := congrArg (·[i]?) hAlternatives
    simpa [h, hLength ▸ h] using hGet
  rw [List.getElem_map, ← hOut]
  exact hRange _ (List.getElem_mem h)

/-- The first draw of a sample takes an element out; the others go on with what is left. -/
theorem run_sample_listed (amount : Nat) {first : α} {rest : List α} (place : Fin (rest.length + 1))
    (picks : List Nat) :
    let later := (sample amount (takeOut first rest place).2).run (Source.listed picks) 0
    (sample (amount + 1) (first :: rest)).run (Source.listed (place.val :: picks)) 0 =
      ((takeOut first rest place).1 :: later.1, ⟨rest.length + 1, place⟩ :: later.2) := by
  rw [sample, run_draw_listed place.isLt]
  simp only [run_map]

theorem map_chosen_sample {amount : Nat} {list : List α} {picks : List Nat}
    (hPicks : picks ∈ choices list.length (min amount list.length)) :
    ((sample amount list).run (Source.listed picks) 0).2.map Drawn.chosen = picks := by
  induction amount generalizing list picks with
  | zero =>
    rw [Nat.zero_min, choices_zero] at hPicks
    exact hPicks.symm
  | succ amount ih =>
    cases list with
    | nil =>
      rw [List.length_nil, Nat.min_zero, choices_zero] at hPicks
      exact hPicks.symm
    | cons first rest =>
      rw [List.length_cons, Nat.succ_min_succ] at hPicks
      obtain _ | ⟨pick, picks⟩ := picks
      · exact absurd hPicks.1 (Nat.succ_ne_zero _).symm
      obtain ⟨hPick, hLater⟩ := cons_mem_choices_iff.1 hPicks
      rw [run_sample_listed amount ⟨pick, hPick⟩, List.map_cons, ih]
      rwa [length_takeOut]

/-- **Every sample of different elements is drawn in exactly one way.** -/
theorem bijOn_sample (amount : Nat) {list : List α} (hDistinct : list.Nodup) :
    Set.BijOn (fun picks => ((sample amount list).run (Source.listed picks) 0).1)
      (choices list.length (min amount list.length)) (samples list (min amount list.length)) := by
  induction amount generalizing list with
  | zero =>
    rw [Nat.zero_min, choices_zero, samples_zero]
    exact Set.bijOn_singleton.2 rfl
  | succ amount ih =>
    cases list with
    | nil =>
      rw [List.length_nil, Nat.min_zero, choices_zero, samples_zero]
      exact Set.bijOn_singleton.2 rfl
    | cons first rest =>
      -- The elements that a draw leaves are different again, and one less.
      have hSplit : ∀ place : Fin (rest.length + 1),
          ((takeOut first rest place).1 :: (takeOut first rest place).2).Perm (first :: rest) :=
        takeOut_perm first
      have hLeft : ∀ place, (takeOut first rest place).2.Nodup := fun place =>
        (List.nodup_cons.1 ((hSplit place).nodup_iff.2 hDistinct)).2
      have hRest := fun place => ih (hLeft place)
      simp only [length_takeOut] at hRest
      rw [List.length_cons, Nat.succ_min_succ]
      refine ⟨?_, ?_, ?_⟩
      · intro picks hPicks
        obtain _ | ⟨pick, picks⟩ := picks
        · exact absurd hPicks.1 (Nat.succ_ne_zero _).symm
        obtain ⟨hPick, hLater⟩ := cons_mem_choices_iff.1 hPicks
        simp only [run_sample_listed amount ⟨pick, hPick⟩]
        exact (cons_mem_samples_iff hDistinct (hSplit _)).2 ((hRest _).mapsTo hLater)
      · rintro (_ | ⟨pick, picks⟩) hPicks (_ | ⟨other, others⟩) hOthers hSame
        · rfl
        · exact absurd hPicks.1 (Nat.succ_ne_zero _).symm
        · exact absurd hOthers.1 (Nat.succ_ne_zero _).symm
        obtain ⟨hPick, hLater⟩ := cons_mem_choices_iff.1 hPicks
        obtain ⟨hOther, hLaterOther⟩ := cons_mem_choices_iff.1 hOthers
        simp only [run_sample_listed amount ⟨pick, hPick⟩, run_sample_listed amount ⟨other, hOther⟩,
          List.cons.injEq] at hSame
        obtain rfl : pick = other := congrArg Fin.val (takeOut_injective hDistinct hSame.1)
        rw [(hRest _).injOn hLater hLaterOther hSame.2]
      · intro drawn hDrawn
        obtain _ | ⟨element, drawn⟩ := drawn
        · exact absurd hDrawn.1 (Nat.succ_ne_zero _).symm
        obtain ⟨place, rfl⟩ := exists_takeOut (hDrawn.2.2 element List.mem_cons_self)
        obtain ⟨picks, hPicks, rfl⟩ :=
          (hRest place).surjOn ((cons_mem_samples_iff hDistinct (hSplit place)).1 hDrawn)
        exact ⟨place :: picks, cons_mem_choices_iff.2 ⟨place.isLt, hPicks⟩,
          congrArg Prod.fst (run_sample_listed amount place picks)⟩

/-- Whatever the source is, what is drawn is a sample. -/
theorem run_sample_mem (amount : Nat) {list : List α} (hDistinct : list.Nodup) (source : Source)
    (made : Nat) :
    ((sample amount list).run source made).1 ∈ samples list (min amount list.length) := by
  rw [run_eq_run_listed]
  exact (bijOn_sample amount hDistinct).mapsTo (map_chosen_mem_choices amount list source made)

/-- As many elements as there are: the samples are the rearrangements of the list. -/
theorem samples_length {list : List α} (hDistinct : list.Nodup) :
    samples list list.length = {drawn | drawn.Perm list} := by
  ext drawn
  constructor
  · rintro ⟨hLength, hNodup, hMem⟩
    exact (List.subperm_of_subset hNodup hMem).perm_of_length_le hLength.ge
  · exact fun hPerm => ⟨hPerm.length_eq, hPerm.nodup_iff.2 hDistinct, fun _ => hPerm.mem_iff.1⟩

/-! ### Swaps in place -/

/-- Swaps in place: the entry at `place` changes places with the one as far behind it as the first
choice says, the entry at the next place with the one that the second choice says, and so on. -/
def swappedInPlace : Nat → List Nat → Array α → Array α
  | _, [], entries => entries
  | place, pick :: picks, entries =>
    swappedInPlace (place + 1) picks (entries.swapIfInBounds place (place + pick))

/-- A swap behind the entries that are fixed takes an element out of the others. -/
theorem swapIfInBounds_append (fixed : List α) (first : α) {rest : List α}
    (place : Fin (rest.length + 1)) :
    (fixed ++ first :: rest).toArray.swapIfInBounds fixed.length (fixed.length + place) =
      (fixed ++ (takeOut first rest place).1 :: (takeOut first rest place).2).toArray := by
  obtain ⟨index, hIndex⟩ := place
  have hFirst : fixed.length < (fixed ++ first :: rest).toArray.size := by simp
  have hOther : fixed.length + index < (fixed ++ first :: rest).toArray.size := by simpa using hIndex
  rw [Array.swapIfInBounds, dif_pos hFirst, dif_pos hOther]
  apply Array.toList_inj.1
  rw [Array.toList_swap]
  cases index <;> simp [takeOut, List.getElem_append_right, List.set_append_right]

/-- The sample stands behind the entries that were fixed before, at as many places as there are
choices. -/
theorem take_swappedInPlace {amount : Nat} {list : List α} (fixed : List α) {picks : List Nat}
    (hPicks : picks ∈ choices list.length (min amount list.length)) :
    (swappedInPlace fixed.length picks (fixed ++ list).toArray).toList.take
        (fixed.length + picks.length) =
      fixed ++ ((sample amount list).run (Source.listed picks) 0).1 := by
  induction amount generalizing list fixed picks with
  | zero =>
    rw [Nat.zero_min, choices_zero] at hPicks
    obtain rfl := hPicks
    exact List.take_left.trans (List.append_nil fixed).symm
  | succ amount ih =>
    cases list with
    | nil =>
      rw [List.length_nil, Nat.min_zero, choices_zero] at hPicks
      obtain rfl := hPicks
      exact List.take_left.trans (List.append_nil fixed).symm
    | cons first rest =>
      rw [List.length_cons, Nat.succ_min_succ] at hPicks
      obtain _ | ⟨pick, picks⟩ := picks
      · exact absurd hPicks.1 (Nat.succ_ne_zero _).symm
      obtain ⟨hPick, hLater⟩ := cons_mem_choices_iff.1 hPicks
      -- The element that is taken out now joins the entries that are fixed.
      let taken := takeOut first rest ⟨pick, hPick⟩
      have hRange : picks ∈ choices taken.2.length (min amount taken.2.length) := by
        rwa [length_takeOut]
      have hNext := ih (fixed ++ [taken.1]) hRange
      rw [List.append_assoc, List.append_assoc, List.length_append] at hNext
      rw [swappedInPlace, swapIfInBounds_append fixed first ⟨pick, hPick⟩,
        run_sample_listed amount ⟨pick, hPick⟩, List.length_cons, Nat.add_comm picks.length,
        ← Nat.add_assoc]
      exact hNext

/-- **A sample is what swaps in place leave at the front.** -/
theorem run_sample_eq_swappedInPlace {amount : Nat} {list : List α} {picks : List Nat}
    (hPicks : picks ∈ choices list.length (min amount list.length)) :
    ((sample amount list).run (Source.listed picks) 0).1 =
      (swappedInPlace 0 picks list.toArray).toList.take (min amount list.length) := by
  have hFront := take_swappedInPlace [] hPicks
  rw [List.length_nil, Nat.zero_add, hPicks.1] at hFront
  exact hFront.symm

/-! ### Indices -/

theorem takeOut_map (f : α → β) (first : α) {rest : List α} (place : Fin (rest.length + 1))
    (hPlace : place.val < (rest.map f).length + 1) :
    takeOut (f first) (rest.map f) ⟨place, hPlace⟩ =
      (f (takeOut first rest place).1, (takeOut first rest place).2.map f) := by
  obtain ⟨index, hIndex⟩ := place
  cases index <;> simp [takeOut]

/-- A sample does not look at the elements: it is drawn alike from their images. -/
theorem run_sample_map (f : α → β) (amount : Nat) (list : List α) (source : Source) (made : Nat) :
    (sample amount (list.map f)).run source made =
      (((sample amount list).run source made).1.map f, ((sample amount list).run source made).2) := by
  induction amount generalizing list made with
  | zero => rfl
  | succ amount ih =>
    cases list with
    | nil => rfl
    | cons first rest =>
      have hPlace : (alternative (source made) (rest.map f).length).val =
          (alternative (source made) rest.length).val := by
        rw [alternative, alternative, List.length_map]
      have hTaken := takeOut_map f first (alternative (source made) rest.length)
        (hPlace ▸ (alternative (source made) (rest.map f).length).isLt)
      rw [← Fin.eq_mk_iff_val_eq.2 hPlace] at hTaken
      simp only [List.map_cons, sample, run, run_map, hTaken, ih, hPlace, List.length_map]

/-- A sample is told by its indices: the elements drawn stand at the places that the same draws give
among the indices of the list. -/
theorem run_sample_range (amount : Nat) (list : List α) (source : Source) (made : Nat) :
    let drawn := (sample amount (List.range list.length)).run source made
    ((sample amount list).run source made).1.map some = drawn.1.map (list[·]?) ∧
      ((sample amount list).run source made).2 = drawn.2 := by
  have hPlaces : list.map some = (List.range list.length).map (list[·]?) := by
    refine List.ext_getElem (by simp) fun i _ _ => ?_
    simp
  have hSame := run_sample_map some amount list source made
  rw [hPlaces, run_sample_map] at hSame
  exact ⟨(congrArg Prod.fst hSame).symm, (congrArg Prod.snd hSame).symm⟩

/-- **The indices below `len` are sampled without preference.**  With `count` the lesser of `len` and
`amount`, whatever the source is,

* there are `count` draws, out of `len`, `len - 1`, … alternatives and never out of none,
* the result has `count` different indices, all below `len`.

The choices are free within these bounds and tell what becomes of the indices by swaps in place.  Every
sequence of `count` different indices comes from one sequence of choices and no other; so if `amount` is at
least `len`, the results are the rearrangements of all indices. -/
theorem sample_indices (len amount : Nat) :
    let drawing : Draws (List Nat) := sample amount (List.range len)
    let count := min amount len
    (∀ source made,
      (drawing.run source made).2.map Drawn.alternatives = (List.range count).map (fun i => len - i) ∧
        (∀ drawn ∈ (drawing.run source made).2, 0 < drawn.alternatives) ∧
        (drawing.run source made).1.length = count ∧ (drawing.run source made).1.Nodup ∧
        ∀ index ∈ (drawing.run source made).1, index < len) ∧
    (∀ picks ∈ choices len count,
      (drawing.run (Source.listed picks) 0).2.map Drawn.chosen = picks ∧
        (drawing.run (Source.listed picks) 0).1 =
          (swappedInPlace 0 picks (List.range len).toArray).toList.take count) ∧
    Set.BijOn (fun picks => (drawing.run (Source.listed picks) 0).1) (choices len count)
      {drawn | drawn.length = count ∧ drawn.Nodup ∧ ∀ index ∈ drawn, index < len} ∧
    (len ≤ amount → ∀ drawn : List Nat,
      (∃ picks ∈ choices len len, (drawing.run (Source.listed picks) 0).1 = drawn) ↔
        drawn.Perm (List.range len)) := by
  intro drawing count
  have hDistinct : (List.range len).Nodup := List.nodup_range
  have hLength : (List.range len).length = len := List.length_range
  have hSamples : samples (List.range len) count =
      {drawn | drawn.length = count ∧ drawn.Nodup ∧ ∀ index ∈ drawn, index < len} := by
    simp only [samples, List.mem_range]
  have hDraws := map_alternatives_sample amount (List.range len)
  have hOnce := bijOn_sample amount hDistinct
  simp only [hLength] at hDraws hOnce
  refine ⟨fun source made => ?_, fun picks hPicks => ?_, hSamples ▸ hOnce, fun hAll drawn => ?_⟩
  · refine ⟨hDraws source made, fun drawn hDrawn => ?_, ?_⟩
    · exact Nat.zero_lt_of_lt (chosen_lt_alternatives drawing source made drawn hDrawn)
    · have hSample := run_sample_mem amount hDistinct source made
      rw [hLength] at hSample
      exact hSamples.subset hSample
  · have hRange : picks ∈ choices (List.range len).length (min amount (List.range len).length) := by
      rwa [hLength]
    have hFront := run_sample_eq_swappedInPlace hRange
    rw [hLength] at hFront
    exact ⟨map_chosen_sample hRange, hFront⟩
  · have hImage := hOnce.image_eq
    have hPerms := samples_length hDistinct
    rw [Nat.min_eq_right hAll] at hImage
    rw [hLength, ← hImage] at hPerms
    exact Set.ext_iff.1 hPerms drawn

end Draws

end ReviewAssignment
