import Eligibility.Rule.Formula
import Mathlib.Data.List.ReduceOption

/-!
# The turns of a fold

A fold works through a list of steps, and so does the listing of comparisons. Here the fold is
looked at turn by turn: `Turns` says what one turn does and which of the two functions it calls, and
`run_eq_some_iff` that a run is such turns, one after the other, until no work is left.

The turns on a formula make the calls of the recursion on the tree, in its order (`calls`,
`runs_visit`). There is only one turn to make at each stage (`Turns.unique`), so whatever stage is
reached on the way, what is left of these calls leads from it to the end (`Runs.exists_rest`): no
turn lacks a result, and the work comes to an end.
-/

namespace Eligibility.Formula

/-! ## One turn after the other -/

/-- A call of one of the two functions of a fold, with what it is given. -/
inductive Call (α : Type) where
  | onAtom (c : Comparison)
  | onJoin (op : Connective) (left right : Formula) (l r : α)

/-- The comparison that a call is about, if it is about one. -/
def Call.comparison? {α : Type} : Call α → Option Comparison
  | .onAtom c => some c
  | .onJoin .. => none

/-- Where a fold stands between two turns: the work to come, and the results so far. -/
structure Stage (α : Type) where
  work : List Step
  results : List α

/-- The number of turns that are left. -/
def Stage.weight {α : Type} (s : Stage α) : Nat := totalWeight s.work

section Turns

variable {α : Type} (onAtom : Comparison → α) (onJoin : Connective → Formula → Formula → α → α → α)

/-- One turn of a fold, with the call that it makes, if it makes one. -/
inductive Turns : Stage α → Option (Call α) → Stage α → Prop
  | atom (c : Comparison) (work : List Step) (results : List α) :
      Turns ⟨.visit (.atom c) :: work, results⟩ (some (.onAtom c)) ⟨work, onAtom c :: results⟩
  | split (op : Connective) (left right : Formula) (work : List Step) (results : List α) :
      Turns ⟨.visit (.join op left right) :: work, results⟩ none
        ⟨.visit left :: .visit right :: .build op left right :: work, results⟩
  | join (op : Connective) (left right : Formula) (l r : α) (work : List Step)
      (results : List α) :
      Turns ⟨.build op left right :: work, r :: l :: results⟩ (some (.onJoin op left right l r))
        ⟨work, onJoin op left right l r :: results⟩

/-- Any number of turns, with the call of each. -/
inductive Runs : Stage α → List (Option (Call α)) → Stage α → Prop
  | refl (s : Stage α) : Runs s [] s
  | turn {s s' s'' : Stage α} {call : Option (Call α)} {made : List (Option (Call α))}
      (hturn : Turns onAtom onJoin s call s') (hrun : Runs s' made s'') : Runs s (call :: made) s''

/-- The calls of the recursion on a tree: those for the left side, those for the right side, and
then the one that puts the two values together. -/
def calls : Formula → List (Call α)
  | .atom c => [.onAtom c]
  | .join op left right =>
      calls left ++ calls right ++
        [.onJoin op left right (recurse onAtom onJoin left) (recurse onAtom onJoin right)]

variable {onAtom onJoin} {s s' s'' : Stage α} {call call' : Option (Call α)}
  {made made' : List (Option (Call α))}

/-- At each stage there is one turn at most. -/
theorem Turns.unique (h : Turns onAtom onJoin s call s') (h' : Turns onAtom onJoin s call' s'') :
    call = call' ∧ s' = s'' := by
  cases h <;> cases h' <;> exact ⟨rfl, rfl⟩

/-- Each turn takes one off the number of those that are left. -/
theorem Turns.weight_eq (h : Turns onAtom onJoin s call s') : s.weight = s'.weight + 1 := by
  cases h <;> simp only [Stage.weight, totalWeight, Step.weight, Formula.weight] <;> omega

/-- Turns lead on what a run does. -/
theorem Turns.run_eq (h : Turns onAtom onJoin s call s') :
    run onAtom onJoin s.work s.results = run onAtom onJoin s'.work s'.results := by
  cases h <;> simp only [run]

theorem Runs.trans (h : Runs onAtom onJoin s made s') (h' : Runs onAtom onJoin s' made' s'') :
    Runs onAtom onJoin s (made ++ made') s'' := by
  induction h with
  | refl => exact h'
  | turn hturn _ ih => exact .turn hturn (ih h')

/-- A run takes as many turns as the weight goes down by. -/
theorem Runs.weight_eq (h : Runs onAtom onJoin s made s') :
    s.weight = s'.weight + made.length := by
  induction h with
  | refl => rfl
  | turn hturn _ ih =>
      have hstep := hturn.weight_eq
      rw [List.length_cons]
      omega

theorem Runs.run_eq (h : Runs onAtom onJoin s made s') :
    run onAtom onJoin s.work s.results = run onAtom onJoin s'.work s'.results := by
  induction h with
  | refl => rfl
  | turn hturn _ ih => exact hturn.run_eq.trans ih

/-- A run ends with some results exactly if turns lead there. -/
theorem run_eq_some_iff {work : List Step} {results last : List α} :
    run onAtom onJoin work results = some last ↔
      ∃ made, Runs onAtom onJoin ⟨work, results⟩ made ⟨[], last⟩ := by
  constructor
  · fun_induction run onAtom onJoin work results with
    | case1 results =>
        intro h
        cases h
        exact ⟨[], .refl _⟩
    | case2 c work results ih =>
        intro h
        obtain ⟨made, hrun⟩ := ih h
        exact ⟨_, .turn (.atom c work results) hrun⟩
    | case3 op left right work results ih =>
        intro h
        obtain ⟨made, hrun⟩ := ih h
        exact ⟨_, .turn (.split op left right work results) hrun⟩
    | case4 op left right work r l results ih =>
        intro h
        obtain ⟨made, hrun⟩ := ih h
        exact ⟨_, .turn (.join op left right l r work results) hrun⟩
    | case5 => exact fun h => nomatch h
  · rintro ⟨made, hrun⟩
    rw [hrun.run_eq, run]

/-- From any stage on, the turns on a formula make the calls of the recursion, in its order, and add
its value to the results. -/
theorem runs_visit (f : Formula) (work : List Step) (results : List α) :
    ∃ made, Runs onAtom onJoin ⟨.visit f :: work, results⟩ made
        ⟨work, recurse onAtom onJoin f :: results⟩ ∧
      made.reduceOption = calls onAtom onJoin f := by
  induction f generalizing work results with
  | atom c => exact ⟨_, .turn (.atom c work results) (.refl _), rfl⟩
  | join op left right ihl ihr =>
      obtain ⟨leftMade, hleft, hleftCalls⟩ :=
        ihl (.visit right :: .build op left right :: work) results
      obtain ⟨rightMade, hright, hrightCalls⟩ :=
        ihr (.build op left right :: work) (recurse onAtom onJoin left :: results)
      have hjoin : Turns onAtom onJoin _ _ _ := .join op left right
        (recurse onAtom onJoin left) (recurse onAtom onJoin right) work results
      refine ⟨_, .turn (.split op left right work results)
        ((hleft.trans hright).trans (.turn hjoin (.refl _))), ?_⟩
      rw [List.reduceOption_cons_of_none, List.reduceOption_append, List.reduceOption_append,
        hleftCalls, hrightCalls]
      rfl

/-- What has been reached on the way to an end without work leads on to this end. -/
theorem Runs.exists_rest {results : List α} (hwhole : Runs onAtom onJoin s made' ⟨[], results⟩)
    (h : Runs onAtom onJoin s made s') :
    ∃ rest, Runs onAtom onJoin s' rest ⟨[], results⟩ ∧ made ++ rest = made' := by
  induction h generalizing made' with
  | refl => exact ⟨_, hwhole, rfl⟩
  | turn hturn _ ih =>
      cases hwhole with
      | refl => exact nomatch hturn
      | turn hfirst hlater =>
          obtain ⟨rfl, rfl⟩ := hturn.unique hfirst
          obtain ⟨rest, hrest, rfl⟩ := ih hlater
          exact ⟨rest, hrest, rfl⟩

/-- The calls about comparisons come in the order in which the comparisons are listed. -/
theorem comparisons_calls (f : Formula) :
    (calls onAtom onJoin f).filterMap Call.comparison? = f.comparisons := by
  induction f with
  | atom c => rw [comparisons_atom]; rfl
  | join op left right ihl ihr =>
      rw [calls, List.filterMap_append, List.filterMap_append, ihl, ihr, comparisons_join]
      exact List.append_nil _

end Turns

/-! ## Leaves -/

/-- A side of a join. -/
inductive Side where
  | left
  | right

/-- The part of a formula to which some sides lead, one after the other. -/
def at? : Formula → List Side → Option Formula
  | f, [] => some f
  | .atom _, _ :: _ => none
  | .join _ left _, .left :: place => left.at? place
  | .join _ _ right, .right :: place => right.at? place

/-- One place is to the left of another: where they part, it goes to the left. -/
def LeftOf (p q : List Side) : Prop :=
  ∃ common p' q', p = common ++ .left :: p' ∧ q = common ++ .right :: q'

theorem LeftOf.ne {p q : List Side} (h : LeftOf p q) : p ≠ q := by
  obtain ⟨common, p', q', rfl, rfl⟩ := h
  simp

theorem LeftOf.cons {p q : List Side} (h : LeftOf p q) (side : Side) :
    LeftOf (side :: p) (side :: q) := by
  obtain ⟨common, p', q', rfl, rfl⟩ := h
  exact ⟨side :: common, p', q', rfl, rfl⟩

/-- The places of the comparisons, from left to right. -/
def leaves : Formula → List (List Side)
  | .atom _ => [[]]
  | .join _ left right => left.leaves.map (.left :: ·) ++ right.leaves.map (.right :: ·)

theorem pairwise_leaves (f : Formula) : f.leaves.Pairwise LeftOf := by
  induction f with
  | atom c => exact List.pairwise_singleton _ _
  | join op left right ihl ihr =>
      rw [leaves, List.pairwise_append, List.pairwise_map, List.pairwise_map]
      refine ⟨ihl.imp fun h => h.cons _, ihr.imp fun h => h.cons _, ?_⟩
      simp only [List.mem_map]
      rintro _ ⟨p, -, rfl⟩ _ ⟨q, -, rfl⟩
      exact ⟨[], p, q, rfl, rfl⟩

/-- The leaves are where the formula has a comparison. -/
theorem mem_leaves_iff (f : Formula) (place : List Side) :
    place ∈ f.leaves ↔ ∃ c, f.at? place = some (.atom c) := by
  induction f generalizing place with
  | atom c => cases place <;> simp [leaves, at?]
  | join op left right ihl ihr =>
      rcases place with _ | ⟨_ | _, place⟩
      · simp [leaves, at?]
      · simp [leaves, at?, ihl]
      · simp [leaves, at?, ihr]

theorem map_at?_leaves (f : Formula) :
    f.leaves.map f.at? = f.comparisons.map fun c => some (.atom c) := by
  induction f with
  | atom c => rw [comparisons_atom]; rfl
  | join op left right ihl ihr =>
      rw [comparisons_join, List.map_append, ← ihl, ← ihr, leaves, List.map_append, List.map_map,
        List.map_map]
      rfl

/-! ## The work as a whole -/

theorem copy_eq (f : Formula) : f.copy = f := by
  unfold copy
  induction f with
  | atom c => rw [fold_atom]
  | join op left right ihl ihr => rw [fold_join, ihl, ihr]

/-- **A fold is recursion on the tree, call by call.** Whatever the two functions are, folding a
formula gives what recursion on the tree gives. A run of the work is turns, one after the other;
each stage that the turns on a formula get to leads on to the end, where no work is left and exactly
one result, the value of the recursion. The turns up to the stage and those behind it are as many as
the formula weighs, and together they make exactly the calls of the recursion: those for the left
side of a join, those for its right side, and then its own. The calls about comparisons come in the
order in which the comparisons are listed. In particular a copy is equal to the formula.

The listing has each leaf exactly once, from left to right. -/
theorem fold_turn_by_turn {α : Type} (onAtom : Comparison → α)
    (onJoin : Connective → Formula → Formula → α → α → α) (f : Formula) :
    fold onAtom onJoin f = recurse onAtom onJoin f ∧
    (∀ work results last, run onAtom onJoin work results = some last ↔
      ∃ made, Runs onAtom onJoin ⟨work, results⟩ made ⟨[], last⟩) ∧
    (∀ made stage, Runs onAtom onJoin ⟨[.visit f], []⟩ made stage →
      ∃ rest, Runs onAtom onJoin stage rest ⟨[], [recurse onAtom onJoin f]⟩ ∧
        (made ++ rest).length = f.weight ∧
        (made ++ rest).reduceOption = calls onAtom onJoin f) ∧
    (calls onAtom onJoin f).filterMap Call.comparison? = f.comparisons ∧
    f.copy = f ∧
    ∃ places : List (List Side), places.Nodup ∧ places.Pairwise LeftOf ∧
      (∀ place, place ∈ places ↔ ∃ c, f.at? place = some (.atom c)) ∧
      places.map f.at? = f.comparisons.map fun c => some (.atom c) := by
  refine ⟨fold_eq_recurse onAtom onJoin f, fun _ _ _ => run_eq_some_iff, ?_, comparisons_calls f,
    copy_eq f, f.leaves, (pairwise_leaves f).imp LeftOf.ne, pairwise_leaves f, mem_leaves_iff f,
    map_at?_leaves f⟩
  intro made stage hmade
  obtain ⟨whole, hwhole, hcalls⟩ : ∃ made, Runs onAtom onJoin ⟨[.visit f], []⟩ made
      ⟨[], [recurse onAtom onJoin f]⟩ ∧ made.reduceOption = calls onAtom onJoin f :=
    runs_visit f [] []
  obtain ⟨rest, hrest, rfl⟩ := hwhole.exists_rest hmade
  have hweight := hwhole.weight_eq
  simp only [Stage.weight, totalWeight, Step.weight] at hweight
  exact ⟨rest, hrest, by omega, hcalls⟩

/-- The levels of a join of two comparisons, after the turn that reaches the first of them: the left
result is there, and the right comparison and the join are still to come. -/
theorem fold_turn_by_turn_of_depth :
    let a : Comparison := ⟨"a", "=", .number (.int 1)⟩
    let b : Comparison := ⟨"b", "=", .number (.int 2)⟩
    let f : Formula := .join .and (.atom a) (.atom b)
    let stage : Stage Nat := ⟨[.visit (.atom b), .build .and (.atom a) (.atom b)], [1]⟩
    let Runs := Runs (fun _ => 1) (fun _ _ _ l r => max l r + 1)
    Runs ⟨[.visit f], []⟩ [none, some (.onAtom a)] stage ∧
      ∃ rest, Runs stage rest ⟨[], [2]⟩ ∧ rest.length = 2 ∧
        rest.reduceOption = [.onAtom b, .onJoin .and (.atom a) (.atom b) 1 1] := by
  intro a b f stage Runs
  have hmade : Runs ⟨[.visit f], []⟩ [none, some (.onAtom a)] stage :=
    .turn (.split ..) (.turn (.atom ..) (.refl _))
  obtain ⟨-, -, hreached, -⟩ :=
    fold_turn_by_turn (fun _ => 1) (fun _ _ _ l r => max l r + 1) f
  obtain ⟨rest, hrest, hlength, hcalls⟩ := hreached _ _ hmade
  refine ⟨hmade, rest, hrest, ?_, ?_⟩
  · simpa [f, weight] using hlength
  · simpa [f, calls, recurse, List.reduceOption_cons_of_none, List.reduceOption_cons_of_some]
      using hcalls

end Eligibility.Formula
