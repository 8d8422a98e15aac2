import DesignTokens.Alias.Follow
import Mathlib.Data.List.Nodup

/-! The chain of an alias as an orbit: the path of the alias, the path of the alias found there, and
so on. The paths visited on the way are the part of the orbit that is behind, so resolving an alias
finds where its orbit stops, or else the first path to which it comes back. -/

namespace DesignTokens.Proofs.AliasOrbit

def next? (tree : Json) (path : String) : Option String :=
  aliasPath? (valueAt tree path)

/-- The path after so many steps. There is none once the chain has stopped. -/
def orbit (tree : Json) (start : String) : Nat → Option String
  | 0 => some start
  | steps + 1 => (orbit tree start steps).bind (next? tree)

def Reaches (tree : Json) (start path : String) : Prop :=
  ∃ steps, orbit tree start steps = some path

def Stops (tree : Json) (start path : String) : Prop :=
  Reaches tree start path ∧ next? tree path = none

def Endless (tree : Json) (start : String) : Prop :=
  ∀ steps, ∃ path, orbit tree start steps = some path

/-- The chain is at a path for the second time, and has not been anywhere twice before. -/
def FirstRepeat (tree : Json) (start path : String) : Prop :=
  ∃ first again, first < again ∧ orbit tree start first = some path ∧
    orbit tree start again = some path ∧
    ∀ i j, i < j → j < again → orbit tree start i ≠ orbit tree start j

def OnCycle (tree : Json) (path : String) : Prop :=
  ∃ period, 0 < period ∧ orbit tree path period = some path

variable {tree : Json} {start path : String}

theorem orbit_add {steps : Nat} (reached : orbit tree start steps = some path) (more : Nat) :
    orbit tree start (steps + more) = orbit tree path more := by
  induction more with
  | zero => exact reached
  | succ more ih => rw [← Nat.add_assoc, orbit, orbit, ih]

private theorem reached_before {steps earlier : Nat} (before : earlier ≤ steps)
    (reached : orbit tree start steps = some path) :
    ∃ passed, orbit tree start earlier = some passed := by
  cases present : orbit tree start earlier with
  | some passed => exact ⟨passed, rfl⟩
  | none =>
    have absent : ∀ more, orbit tree start (earlier + more) = none := by
      intro more
      induction more with
      | zero => exact present
      | succ more ih => rw [← Nat.add_assoc, orbit, ih, Option.bind_none]
    obtain ⟨more, rfl⟩ := Nat.exists_eq_add_of_le before
    rw [absent more] at reached
    cases reached

/-- Nothing comes behind the path at which a chain stops. -/
theorem Stops.last {steps other : Nat} {next : String} (stops : next? tree path = none)
    (reached : orbit tree start steps = some path)
    (later : orbit tree start other = some next) : other ≤ steps := by
  by_cases behind : steps < other
  · obtain ⟨passed, present⟩ := reached_before behind later
    rw [orbit, reached, Option.bind_some, stops] at present
    cases present
  · omega

theorem Stops.unique {other : String} (one : Stops tree start path)
    (two : Stops tree start other) : path = other := by
  obtain ⟨⟨steps, reached⟩, stops⟩ := one
  obtain ⟨⟨steps', reached'⟩, stops'⟩ := two
  have same : steps = steps' :=
    Nat.le_antisymm (Stops.last stops' reached' reached) (Stops.last stops reached reached')
  subst same
  exact Option.some.inj (reached.symm.trans reached')

theorem Stops.not_endless (stops : Stops tree start path) : ¬ Endless tree start := by
  intro endless
  obtain ⟨⟨steps, reached⟩, stops⟩ := stops
  obtain ⟨next, later⟩ := endless (steps + 1)
  have := Stops.last stops reached later
  omega

theorem endless_or_stops (tree : Json) (start : String) :
    Endless tree start ∨ ∃ path, Stops tree start path := by
  by_cases stops : ∃ path, Stops tree start path
  · exact Or.inr stops
  · left
    intro steps
    induction steps with
    | zero => exact ⟨start, rfl⟩
    | succ steps ih =>
      obtain ⟨path, reached⟩ := ih
      cases onward : next? tree path with
      | none => exact absurd ⟨path, ⟨steps, reached⟩, onward⟩ stops
      | some next => exact ⟨next, by rw [orbit, reached, Option.bind_some, onward]⟩

theorem FirstRepeat.onCycle (repeats : FirstRepeat tree start path) : OnCycle tree path := by
  obtain ⟨first, again, later, reached, back, _⟩ := repeats
  refine ⟨again - first, by omega, ?_⟩
  rw [← orbit_add reached, Nat.add_sub_of_le (Nat.le_of_lt later)]
  exact back

/-- From a repeated path on, every step can be taken a round earlier. -/
theorem FirstRepeat.endless (repeats : FirstRepeat tree start path) : Endless tree start := by
  obtain ⟨first, again, later, reached, back, _⟩ := repeats
  intro steps
  induction steps using Nat.strongRecOn with
  | ind steps ih =>
    by_cases inside : steps ≤ again
    · exact reached_before inside back
    · obtain ⟨more, rfl⟩ := Nat.exists_eq_add_of_le (Nat.le_of_not_le inside)
      rw [orbit_add back, ← orbit_add reached]
      exact ih (first + more) (by omega)

theorem FirstRepeat.unique {other : String} (one : FirstRepeat tree start path)
    (two : FirstRepeat tree start other) : path = other := by
  obtain ⟨first, again, later, reached, back, distinct⟩ := one
  obtain ⟨first', again', later', reached', back', distinct'⟩ := two
  rcases Nat.lt_trichotomy again again' with less | same | less
  · exact absurd (reached.trans back.symm) (distinct' first again later less)
  · subst same
    exact Option.some.inj (back.symm.trans back')
  · exact absurd (reached'.trans back'.symm) (distinct first' again' later' less)

/-- How a chain can end, said of its orbit alone. -/
inductive Fate (tree : Json) (start : String) : Ending → Prop
  | literal {path : String} (stops : Stops tree start path) (answers : valueAt tree path ≠ .null) :
      Fate tree start (.literal (valueAt tree path))
  | unresolved {path : String} (stops : Stops tree start path) (dead : valueAt tree path = .null) :
      Fate tree start (.unresolved path)
  | cycle {path : String} (repeats : FirstRepeat tree start path) : Fate tree start (.cycle path)

/-- The visited paths are those that the orbit passed before the present one, each of them once. -/
structure Trail (tree : Json) (start : String) (visited : List String) (path : String) : Prop where
  reached : orbit tree start visited.length = some path
  passed : ∀ i, i < visited.length → orbit tree start i = visited.reverse[i]?
  distinct : visited.Nodup

theorem Trail.empty (tree : Json) (start : String) : Trail tree start [] start :=
  ⟨rfl, fun _ inside => absurd inside (Nat.not_lt_zero _), List.nodup_nil⟩

theorem Trail.step {visited : List String} {next : String} (trail : Trail tree start visited path)
    (fresh : path ∉ visited) (onward : next? tree path = some next) :
    Trail tree start (path :: visited) next := by
  refine ⟨?_, ?_, List.nodup_cons.mpr ⟨fresh, trail.distinct⟩⟩
  · rw [List.length_cons, orbit, trail.reached, Option.bind_some, onward]
  · intro i inside
    rw [List.reverse_cons]
    by_cases last : i = visited.length
    · subst last
      simp [trail.reached]
    · have before : i < visited.length := by
        rw [List.length_cons] at inside
        omega
      rw [trail.passed i before, List.getElem?_append_left (by simpa using before)]

theorem Trail.firstRepeat {visited : List String} (trail : Trail tree start visited path)
    (seen : path ∈ visited) : FirstRepeat tree start path := by
  obtain ⟨first, inside, found⟩ := List.mem_iff_getElem.mp (List.mem_reverse.mpr seen)
  have before : first < visited.length := by simpa using inside
  refine ⟨first, visited.length, before, ?_, trail.reached, ?_⟩
  · rw [trail.passed first before, List.getElem?_eq_getElem inside, found]
  · intro i j less below
    rw [trail.passed i (by omega), trail.passed j below]
    exact List.nodup_iff_getElem?_ne_getElem?.mp (List.nodup_reverse.mpr trail.distinct) i j less
      (by simpa using below)

/-- Following a chain from anywhere on its orbit, with the paths behind as visited, finds how the
whole chain ends. -/
theorem follow_fate {visited : List String} (trail : Trail tree start visited path) :
    Fate tree start (follow tree visited path).1 := by
  fun_induction follow tree visited path with
  | case1 visited path seen => exact .cycle (trail.firstRepeat seen)
  | case2 visited path fresh next onward ih => exact ih (trail.step fresh onward)
  | case3 visited path fresh stops value =>
    have stopped : Stops tree start path := ⟨⟨_, trail.reached⟩, stops⟩
    by_cases dead : valueAt tree path = .null
    · simpa [value, dead, Json.isNull] using Fate.unresolved stopped dead
    · have answers : value.isNull = false := by
        cases found : valueAt tree path <;> simp_all [value, Json.isNull]
      simpa [answers] using Fate.literal stopped dead

theorem resolve_alias (tree : Json) (start : String) :
    resolve tree (.string (aliasText start)) =
      ⟨(follow tree [] start).1.notes, (follow tree [] start).1.value⟩ := by
  simp [resolve, resolveFrom]

theorem resolve_of_literal (stops : Stops tree start path) (answers : valueAt tree path ≠ .null) :
    resolve tree (.string (aliasText start)) = ⟨[], valueAt tree path⟩ := by
  have fate := follow_fate (Trail.empty tree start)
  rw [resolve_alias]
  generalize (follow tree [] start).1 = ending at fate
  cases fate with
  | literal stops' _ =>
    cases stops.unique stops'
    rfl
  | unresolved stops' dead =>
    cases stops.unique stops'
    exact absurd dead answers
  | cycle repeats => exact absurd repeats.endless stops.not_endless

theorem resolve_of_dead (reached : Reaches tree start path) (dead : valueAt tree path = .null) :
    resolve tree (.string (aliasText start)) = ⟨[.unresolved path], .string (aliasText path)⟩ := by
  have stops : Stops tree start path := ⟨reached, by rw [next?, dead]; rfl⟩
  have fate := follow_fate (Trail.empty tree start)
  rw [resolve_alias]
  generalize (follow tree [] start).1 = ending at fate
  cases fate with
  | literal stops' answers =>
    cases stops.unique stops'
    exact absurd dead answers
  | unresolved stops' _ =>
    cases stops.unique stops'
    rfl
  | cycle repeats => exact absurd repeats.endless stops.not_endless

theorem resolve_of_endless (endless : Endless tree start) :
    ∃ path, FirstRepeat tree start path ∧
      resolve tree (.string (aliasText start)) = ⟨[.cycle path], .string (aliasText path)⟩ := by
  have fate := follow_fate (Trail.empty tree start)
  rw [resolve_alias]
  generalize (follow tree [] start).1 = ending at fate
  cases fate with
  | literal stops _ => exact absurd endless stops.not_endless
  | unresolved stops _ => exact absurd endless stops.not_endless
  | cycle repeats => exact ⟨_, repeats, rfl⟩

/-- Only an alias whose chain stops at a value resolves without a note. -/
theorem resolve_cases (tree : Json) (start : String) :
    (∃ last, Stops tree start last ∧ valueAt tree last ≠ .null ∧
      resolve tree (.string (aliasText start)) = ⟨[], valueAt tree last⟩) ∨
    ∃ path value, resolve tree (.string (aliasText start)) = ⟨[.unresolved path], value⟩ ∨
      resolve tree (.string (aliasText start)) = ⟨[.cycle path], value⟩ := by
  rcases endless_or_stops tree start with endless | ⟨last, stops⟩
  · obtain ⟨path, _, resolved⟩ := resolve_of_endless endless
    exact Or.inr ⟨path, _, Or.inr resolved⟩
  · by_cases dead : valueAt tree last = .null
    · exact Or.inr ⟨last, _, Or.inl (resolve_of_dead stops.1 dead)⟩
    · exact Or.inl ⟨last, stops, dead, resolve_of_literal stops dead⟩

/-- Trees in which the paths of a chain lead to the same values resolve its alias alike. -/
theorem resolve_congr {tree other : Json} {start : String}
    (same : ∀ path, Reaches tree start path → valueAt other path = valueAt tree path) :
    resolve other (.string (aliasText start)) = resolve tree (.string (aliasText start)) := by
  have same_orbit : orbit other start = orbit tree start := by
    funext steps
    induction steps with
    | zero => rfl
    | succ steps ih =>
      rw [orbit, orbit, ih]
      cases reached : orbit tree start steps with
      | none => rfl
      | some path => rw [Option.bind_some, Option.bind_some, next?, next?, same path ⟨steps, reached⟩]
  rcases endless_or_stops tree start with endless | ⟨last, ⟨steps, reached⟩, stops⟩
  · have endless' : Endless other start := by rwa [Endless, same_orbit]
    obtain ⟨repeated, repeats, resolved⟩ := resolve_of_endless endless
    obtain ⟨repeated', repeats', resolved'⟩ := resolve_of_endless endless'
    rw [FirstRepeat, same_orbit] at repeats'
    rw [resolved, resolved', FirstRepeat.unique repeats' repeats]
  · have equal := same last ⟨steps, reached⟩
    have reached' : Reaches other start last := ⟨steps, by rw [same_orbit, reached]⟩
    by_cases dead : valueAt tree last = .null
    · rw [resolve_of_dead ⟨steps, reached⟩ dead, resolve_of_dead reached' (equal.trans dead)]
    · have stops' : Stops other start last := ⟨reached', by rw [next?, equal, ← next?, stops]⟩
      rw [resolve_of_literal ⟨⟨steps, reached⟩, stops⟩ dead,
        resolve_of_literal stops' (by rwa [equal]), equal]

/-- Every cycle is warned of, so a report that has taken one in is longer than before. -/
theorem warnings_add_cycle (report : Report) (path : String) :
    (report.add (.cycle path)).warnings ≠ report.warnings := by
  intro same
  have := congrArg List.length same
  simp [Report.add] at this

/-- Resolving an alias finds the end of its orbit. A value that is no alias is the result and leaves
the report alone; a path that leads nowhere is reported as unresolved; and if neither comes, the
orbit never ends and the first path that it repeats, which lies on a cycle, is reported as one. A
cycle is reported for no other chain. -/
theorem resolve_finds_orbit_end (tree : Json) (start : String) (report : Report) :
    let outcome := resolve tree (.string (aliasText start))
    let after := report.addAll outcome.notes
    (∀ path, Stops tree start path → valueAt tree path ≠ .null →
      outcome.value = valueAt tree path ∧ after = report) ∧
    (∀ path, Reaches tree start path → valueAt tree path = .null →
      outcome.value = .string (aliasText path) ∧ after = report.add (.unresolved path)) ∧
    (Endless tree start ↔ ∀ path, ¬ Stops tree start path) ∧
    (Endless tree start → ∃ path, FirstRepeat tree start path ∧ OnCycle tree path ∧
      outcome.value = .string (aliasText path) ∧ after = report.add (.cycle path)) ∧
    ((∃ path, after = report.add (.cycle path)) → Endless tree start) := by
  intro outcome after
  refine ⟨?_, ?_, ?_, ?_, ?_⟩
  · intro path stops answers
    have resolved : outcome = ⟨[], _⟩ := resolve_of_literal stops answers
    exact ⟨by rw [resolved], by simp only [after, resolved]; rfl⟩
  · intro path reached dead
    have resolved : outcome = ⟨[.unresolved path], _⟩ := resolve_of_dead reached dead
    exact ⟨by rw [resolved], by simp only [after, resolved]; rfl⟩
  · constructor
    · intro endless path stops
      exact stops.not_endless endless
    · intro never
      rcases endless_or_stops tree start with endless | ⟨path, stops⟩
      · exact endless
      · exact absurd stops (never path)
  · intro endless
    obtain ⟨path, repeats, same⟩ := resolve_of_endless endless
    have resolved : outcome = ⟨[.cycle path], _⟩ := same
    exact ⟨path, repeats, repeats.onCycle, by rw [resolved], by simp only [after, resolved]; rfl⟩
  · rintro ⟨path, reported⟩
    rcases endless_or_stops tree start with endless | ⟨last, stops⟩
    · exact endless
    · have quiet : after.warnings = report.warnings := by
        by_cases dead : valueAt tree last = .null
        · have resolved : outcome = ⟨[.unresolved last], _⟩ := resolve_of_dead stops.1 dead
          simp only [after, resolved]
          rfl
        · have resolved : outcome = ⟨[], _⟩ := resolve_of_literal stops dead
          simp only [after, resolved]
          rfl
      exact absurd (reported ▸ quiet) (warnings_add_cycle report path)

/-- Chains of every shape: `a` runs into the loop of `b` and `c`, `d` ends at a value, and `f` at
nothing. -/
def crossings : Json :=
  .object [("a", .color "{b}"), ("b", .color "{c}"), ("c", .color "{b}"), ("d", .color "{e}"),
    ("e", .color "16px"), ("f", .color "{g}")]

private theorem crossings_firstRepeat : FirstRepeat crossings "a" "b" := by
  have trail : Trail crossings "a" ["c", "b", "a"] "b" :=
    (((Trail.empty crossings "a").step (by decide) rfl).step (by decide) rfl).step (by decide) rfl
  exact trail.firstRepeat (by decide)

theorem resolve_finds_orbit_end_crossings :
    (Stops crossings "d" "e" ∧ valueAt crossings "e" ≠ .null ∧
      (resolve crossings (.string (aliasText "d"))).value = valueAt crossings "e" ∧
      Report.addAll {} (resolve crossings (.string (aliasText "d"))).notes = {}) ∧
    (Reaches crossings "f" "g" ∧ valueAt crossings "g" = .null ∧
      (resolve crossings (.string (aliasText "f"))).value = .string (aliasText "g") ∧
      Report.addAll {} (resolve crossings (.string (aliasText "f"))).notes =
        Report.add {} (.unresolved "g")) ∧
    (Endless crossings "a" ∧ ∃ path, FirstRepeat crossings "a" path ∧ OnCycle crossings path ∧
      (resolve crossings (.string (aliasText "a"))).value = .string (aliasText path) ∧
      Report.addAll {} (resolve crossings (.string (aliasText "a"))).notes =
        Report.add {} (.cycle path)) := by
  have stops : Stops crossings "d" "e" := ⟨⟨1, by decide⟩, by decide⟩
  have answers : valueAt crossings "e" = .string "16px" := rfl
  have reached : Reaches crossings "f" "g" := ⟨1, by decide⟩
  have dead : valueAt crossings "g" = .null := rfl
  have endless : Endless crossings "a" := crossings_firstRepeat.endless
  refine ⟨⟨stops, by simp [answers], ?_⟩, ⟨reached, dead, ?_⟩, endless, ?_⟩
  · exact (resolve_finds_orbit_end crossings "d" {}).1 "e" stops (by simp [answers])
  · exact (resolve_finds_orbit_end crossings "f" {}).2.1 "g" reached dead
  · exact (resolve_finds_orbit_end crossings "a" {}).2.2.2.1 endless

end DesignTokens.Proofs.AliasOrbit
