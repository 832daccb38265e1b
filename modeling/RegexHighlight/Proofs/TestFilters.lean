import RegexHighlight.Suite.Runner

/-!
# Which tests a runner runs

A runner's filters are read as "the last entry whose substring occurs in a test's full name
decides": `skips` folds over the entries and each matching one overwrites the verdict, so it is
the last match found from the end (`skips_eq_lastMatch`). When no entry matches, a test runs
exactly when there is no whitelist entry. `runs_iff` states this as a predicate on the filters,
and two consequences follow from one fact, that a fold started from "skip" stays there while
every matching entry is a blacklist entry (`foldl_skip_stays`).

Running a list of tests adds each of them once to the results, in order, under the verdict the
runner gives it alone (`testAll_records`).
-/

namespace RegexHighlight.Suite

/-! ## Substrings -/

/-- `sub` occurs in `s`. -/
def Occurs (sub s : String) : Prop :=
  List.IsInfix sub.toList s.toList

theorem containsText_go_iff (target : List Char) (cs : List Char) :
    containsText.go target cs = true ↔ List.IsInfix target cs := by
  induction cs with
  | nil => simp [containsText.go]
  | cons c cs ih => simp [containsText.go, ih, List.infix_cons_iff]

theorem containsText_iff (s sub : String) : containsText s sub = true ↔ Occurs sub s :=
  containsText_go_iff sub.toList s.toList

instance (sub s : String) : Decidable (Occurs sub s) :=
  decidable_of_iff _ (containsText_iff s sub)

/-! ## The last matching entry -/

/-- The entry that decides whether a test with this full name runs: the last one whose
substring occurs in the name. -/
def lastMatch (filters : List Include) (name : String) : Option Include :=
  filters.reverse.find? fun i => containsText name i.substring

/-- Whether a test with this full name runs: the last entry that occurs in the name is a
whitelist entry, or no entry occurs in it and there is no whitelist entry. -/
def Runs (filters : List Include) (name : String) : Prop :=
  (∃ pre i post, filters = pre ++ i :: post ∧ Occurs i.substring name ∧ i.blacklist = false ∧
      ∀ j ∈ post, ¬ Occurs j.substring name) ∨
    ((∀ i ∈ filters, ¬ Occurs i.substring name) ∧ ∀ i ∈ filters, i.blacklist = true)

section Fold

variable (name : String)

/-- One entry of the filter fold: a matching entry sets the verdict. -/
def skipStep (skip : Bool) (i : Include) : Bool :=
  if containsText name i.substring then i.blacklist else skip

/-- The fold over the entries returns the verdict of the last match, or its start if none. -/
theorem foldl_skipStep (l : List Include) (init : Bool) :
    l.foldl (skipStep name) init = ((lastMatch l name).map (·.blacklist)).getD init := by
  induction l generalizing init with
  | nil => rfl
  | cons i l ih =>
      rw [List.foldl_cons, ih]
      unfold lastMatch
      rw [List.reverse_cons, List.find?_append]
      cases hl : l.reverse.find? (fun i => containsText name i.substring) with
      | some j => rfl
      | none =>
          by_cases hi : containsText name i.substring = true <;> simp [skipStep, hi]

/-- Started from "skip", the fold stays there while every matching entry is a blacklist entry. -/
theorem foldl_skip_stays (l : List Include)
    (h : ∀ j ∈ l, Occurs j.substring name → j.blacklist = true) :
    l.foldl (skipStep name) true = true := by
  induction l with
  | nil => rfl
  | cons i l ih =>
      have hstep : skipStep name true i = true := by
        unfold skipStep
        split
        · next hi => exact h i List.mem_cons_self ((containsText_iff _ _).1 hi)
        · rfl
      rw [List.foldl_cons, hstep]
      exact ih fun j hj => h j (List.mem_cons_of_mem _ hj)

end Fold

theorem Runner.skips_eq_foldl (r : Runner) (t : Test) :
    r.skips t = r.filters.foldl (skipStep t.fullName) (r.filters.any fun i => !i.blacklist) := by
  unfold Runner.skips
  split
  · next h => simp [List.isEmpty_iff.1 h]
  · rfl

theorem Runner.skips_eq_lastMatch (r : Runner) (t : Test) :
    r.skips t = ((lastMatch r.filters t.fullName).map (·.blacklist)).getD
      (r.filters.any fun i => !i.blacklist) := by
  rw [skips_eq_foldl, foldl_skipStep]

/-- The last match is the entry after which no entry occurs. -/
theorem lastMatch_eq_some_iff {filters : List Include} {name : String} {i : Include} :
    lastMatch filters name = some i ↔ Occurs i.substring name ∧
      ∃ pre post, filters = pre ++ i :: post ∧ ∀ j ∈ post, ¬ Occurs j.substring name := by
  rw [lastMatch, List.find?_eq_some_iff_append, containsText_iff]
  apply and_congr_right fun _ => ?_
  constructor
  · rintro ⟨as, bs, hrev, has⟩
    refine ⟨bs.reverse, as.reverse, ?_, fun j hj => ?_⟩
    · simpa using congrArg List.reverse hrev
    · exact fun hocc =>
        absurd ((containsText_iff _ _).2 hocc) (by simpa using has j (List.mem_reverse.1 hj))
  · rintro ⟨pre, post, rfl, hpost⟩
    exact ⟨post.reverse, pre.reverse, by simp,
      fun j hj => by simpa using mt (containsText_iff _ _).1 (hpost j (List.mem_reverse.1 hj))⟩

theorem lastMatch_eq_none_iff {filters : List Include} {name : String} :
    lastMatch filters name = none ↔ ∀ i ∈ filters, ¬ Occurs i.substring name := by
  simp [lastMatch, containsText_iff]

/-- A test runs exactly when `Runs` holds of the filters and its full name. -/
theorem Runner.skips_eq_false_iff (r : Runner) (t : Test) :
    r.skips t = false ↔ Runs r.filters t.fullName := by
  rw [skips_eq_lastMatch]
  cases hm : lastMatch r.filters t.fullName with
  | some i =>
      obtain ⟨hocc, pre, post, hsplit, hpost⟩ := lastMatch_eq_some_iff.1 hm
      simp only [Option.map_some, Option.getD_some, Runs]
      constructor
      · exact fun hw => .inl ⟨pre, i, post, hsplit, hocc, hw, hpost⟩
      · -- a whitelist entry that occurs with nothing after it is the last match itself
        rintro (⟨pre', i', post', hsplit', hocc', hw', hpost'⟩ | ⟨hnone, -⟩)
        · have : lastMatch r.filters t.fullName = some i' :=
            lastMatch_eq_some_iff.2 ⟨hocc', pre', post', hsplit', hpost'⟩
          rw [hm] at this
          cases this
          exact hw'
        · exact absurd hocc (hnone i (by simp [hsplit]))
  | none =>
      have hnone := lastMatch_eq_none_iff.1 hm
      simp only [Option.map_none, Option.getD_none, List.any_eq_false, Bool.not_eq_eq_eq_not,
        Bool.not_true, Runs]
      constructor
      · exact fun hall => .inr ⟨hnone, fun i hi => by simpa using hall i hi⟩
      · rintro (⟨pre, i, post, hsplit, hocc, -⟩ | ⟨-, hall⟩)
        · exact absurd hocc (hnone i (by simp [hsplit]))
        · exact fun i hi => by simp [hall i hi]

/-- A test that a blacklist entry matches runs only if a later whitelist entry matches it too. -/
theorem Runner.blacklisted_runs_only_if {r : Runner} {t : Test} {pre post : List Include}
    {i : Include} (hsplit : r.filters = pre ++ i :: post) (hb : i.blacklist = true)
    (hocc : Occurs i.substring t.fullName) (hrun : r.skips t = false) :
    ∃ j ∈ post, j.blacklist = false ∧ Occurs j.substring t.fullName := by
  refine Classical.byContradiction fun hno => ?_
  have hlater : ∀ j ∈ post, Occurs j.substring t.fullName → j.blacklist = true := by
    intro j hj hocc'
    cases hjb : j.blacklist
    · exact absurd ⟨j, hj, hjb, hocc'⟩ hno
    · rfl
  -- the matching blacklist entry sets "skip", and no later entry can reset it
  have hafter : ∀ skip, skipStep t.fullName skip i = true := fun _ => by
    simp [skipStep, (containsText_iff _ _).2 hocc, hb]
  have hstays := foldl_skip_stays t.fullName post hlater
  rw [skips_eq_foldl, hsplit, List.foldl_append, List.foldl_cons, hafter, hstays] at hrun
  cases hrun

/-- With a whitelist entry present, a test runs only if some whitelist entry matches it. -/
theorem Runner.whitelisted_runs_only_if {r : Runner} {t : Test}
    (hw : ∃ i ∈ r.filters, i.blacklist = false) (hrun : r.skips t = false) :
    ∃ i ∈ r.filters, i.blacklist = false ∧ Occurs i.substring t.fullName := by
  refine Classical.byContradiction fun hno => ?_
  have hmatching : ∀ j ∈ r.filters, Occurs j.substring t.fullName → j.blacklist = true := by
    intro j hj hocc
    cases hjb : j.blacklist
    · exact absurd ⟨j, hj, hjb, hocc⟩ hno
    · rfl
  have hstart : (r.filters.any fun i => !i.blacklist) = true := by
    obtain ⟨i, hi, hib⟩ := hw
    exact List.any_eq_true.2 ⟨i, hi, by simp [hib]⟩
  rw [skips_eq_foldl, hstart, foldl_skip_stays t.fullName r.filters hmatching] at hrun
  cases hrun

/-! ## What a run records -/

/-- What running a test records: a pass, a failure with its reason, or a skip. -/
inductive Verdict
  | pass
  | fail (kind : Failing)
  | skip
deriving DecidableEq, Repr

/-- The results with one more test, under its verdict. -/
def Results.add (rs : Results) (t : Test) : Verdict → Results
  | .pass => { rs with passed := rs.passed ++ [t] }
  | .fail kind => { rs with failed := rs.failed ++ [⟨t, kind⟩] }
  | .skip => { rs with skipped := rs.skipped ++ [t] }

@[simp] theorem Runner.skips_record (r : Runner) (f : Results → Results) (t : Test) :
    (r.record f).skips t = r.skips t := rfl

/-- Running one test records exactly one verdict, the same whatever was recorded before. -/
theorem Runner.exists_verdict (t : Test) (a : Answer) :
    ∃ v : Verdict, ∀ r : Runner, r.test t a = r.record (·.add t v) := by
  cases a with
  | panic payload => exact ⟨.fail (.panicked payload.shown), fun r => rfl⟩
  | skip => exact ⟨.skip, fun r => rfl⟩
  | fail why => exact ⟨.fail (.byImplementor why), fun r => rfl⟩
  | spans got =>
      cases hr : t.rejected with
      | none =>
          by_cases hg : got = t.spans
          · exact ⟨.pass, fun r => by simp [Runner.test, hr, hg, Results.add]⟩
          · exact ⟨.fail (.spans got), fun r => by simp [Runner.test, hr, hg, Results.add]⟩
      | some kind => exact ⟨.fail .noRejection, fun r => by simp [Runner.test, hr, Results.add]⟩
  | rejected got =>
      cases hr : t.rejected with
      | none => exact ⟨.fail (.rejected got), fun r => by simp [Runner.test, hr, Results.add]⟩
      | some kind =>
          by_cases hg : got = kind
          · exact ⟨.pass, fun r => by simp [Runner.test, hr, hg, Results.add]⟩
          · exact ⟨.fail (.rejected got), fun r => by simp [Runner.test, hr, hg, Results.add]⟩

/-- Running tests in order adds each of them once to the results, in order: under "skip" when
the filters skip it, and under the verdict that running it alone records otherwise. -/
theorem Runner.testAll_records (r : Runner) (tests : List Test) (answer : Test → Answer) :
    ∃ vs : List Verdict, vs.length = tests.length ∧
      (r.testAll tests answer).results =
        (tests.zip vs).foldl (fun rs p => rs.add p.1 p.2) r.results ∧
      ∀ p ∈ tests.zip vs, (r.skips p.1 = true → p.2 = .skip) ∧
        (r.skips p.1 = false →
          ∀ r' : Runner, r'.test p.1 (answer p.1) = r'.record (·.add p.1 p.2)) := by
  induction tests generalizing r with
  | nil => exact ⟨[], rfl, rfl, by simp⟩
  | cons t tests ih =>
      obtain ⟨v, hv⟩ := exists_verdict t (answer t)
      -- the first test is recorded under `v'`, and the filters stay as they were
      let v' : Verdict := if r.skips t then .skip else v
      have hstep : (if r.skips t then r.record fun rs => { rs with skipped := rs.skipped ++ [t] }
          else r.test t (answer t)) = r.record (·.add t v') := by
        by_cases hs : r.skips t <;> simp [v', hs, hv, Results.add]
      obtain ⟨vs, hlen, hres, hall⟩ := ih (r.record (·.add t v'))
      have hcons :
          r.testAll (t :: tests) answer = (r.record (·.add t v')).testAll tests answer := by
        rw [testAll, List.foldl_cons, hstep]
        rfl
      refine ⟨v' :: vs, by simp [hlen], ?_, ?_⟩
      · rw [hcons, hres, List.zip_cons_cons, List.foldl_cons]
        rfl
      · rintro p (_ | ⟨_, hp⟩)
        · exact ⟨fun hs => by simp [v', hs], fun hs => by simpa [v', hs] using hv⟩
        · simpa only [Runner.skips_record] using hall p hp

/-- Which tests the runner of a filter value runs, and what running tests records. The items
of the value are the runner's filters. A test runs exactly when the last item whose substring
occurs in its full name is a whitelist item, or no item occurs in it and there is no whitelist
item. So a test that a blacklist item matches runs only if a later whitelist item matches it
too, and when there is a whitelist item, a test runs only if a whitelist item matches it.
Running tests adds each of them once to the results, in order: as skipped when it does not run,
and under the verdict that running it alone records when it does. -/
theorem filtered_tests_run (value : String) (tests : List Test) (answer : Test → Answer) :
    (∀ t, (Runner.ofFilter value).skips t = false ↔
      Runs (Runner.ofFilter value).filters t.fullName) ∧
    (∀ t pre i post, (Runner.ofFilter value).filters = pre ++ i :: post → i.blacklist = true →
      Occurs i.substring t.fullName → (Runner.ofFilter value).skips t = false →
        ∃ j ∈ post, j.blacklist = false ∧ Occurs j.substring t.fullName) ∧
    (∀ t, (∃ i ∈ (Runner.ofFilter value).filters, i.blacklist = false) →
      (Runner.ofFilter value).skips t = false →
        ∃ i ∈ (Runner.ofFilter value).filters, i.blacklist = false ∧
          Occurs i.substring t.fullName) ∧
    ∃ vs : List Verdict, vs.length = tests.length ∧
      ((Runner.ofFilter value).testAll tests answer).results =
        (tests.zip vs).foldl (fun rs p => rs.add p.1 p.2) {} ∧
      ∀ p ∈ tests.zip vs, ((Runner.ofFilter value).skips p.1 = true → p.2 = .skip) ∧
        ((Runner.ofFilter value).skips p.1 = false →
          ∀ r : Runner, r.test p.1 (answer p.1) = r.record (·.add p.1 p.2)) :=
  ⟨Runner.skips_eq_false_iff _, fun _ _ _ _ => Runner.blacklisted_runs_only_if,
    fun _ => Runner.whitelisted_runs_only_if, Runner.testAll_records _ tests answer⟩

/-- Under the filter ` -b , a,,`, a test named `g/ab` runs: the blacklist item `b` matches it,
and so does the whitelist item `a` after it. -/
theorem filtered_tests_run_sample :
    let t : Test := ⟨"g", "ab", "g/ab", "ab", "", [("literal", "ab")], none⟩
    (Runner.ofFilter " -b , a,,").skips t = false ∧
      (∃ j ∈ [(⟨false, "a"⟩ : Include)], j.blacklist = false ∧ Occurs j.substring t.fullName) ∧
      ∃ i ∈ (Runner.ofFilter " -b , a,,").filters, i.blacklist = false ∧
        Occurs i.substring t.fullName := by
  intro t
  have hfilters : (Runner.ofFilter " -b , a,,").filters = [] ++ ⟨true, "b"⟩ :: [⟨false, "a"⟩] := by
    decide +kernel
  have hrun : (Runner.ofFilter " -b , a,,").skips t = false := by
    decide +kernel
  have hspec := filtered_tests_run " -b , a,," [t] fun _ => .skip
  refine ⟨hrun, hspec.2.1 t [] ⟨true, "b"⟩ [⟨false, "a"⟩] hfilters rfl (by decide +kernel) hrun,
    hspec.2.2.1 t ⟨⟨false, "a"⟩, by simp [hfilters], rfl⟩ hrun⟩

end RegexHighlight.Suite
