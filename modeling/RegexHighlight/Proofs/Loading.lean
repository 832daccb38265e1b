import Mathlib.Data.List.Nodup
import RegexHighlight.Suite.Collection

/-!
# Loading tests

A collection is loaded one file at a time. A load checks its tests in order: each must be well
formed and carry a full name not taken yet, and the first that is not stops the load. A load that
succeeds adds all its tests and takes their names. One that fails adds no tests, but the names it
took before the failure stay taken.

So whatever loads are made, the tests loaded carry distinct full names `group/name` and are well
formed, and a failed load leaves the tests as they were (`loads_keep_tests_distinct_and_valid`).
A failed load does not leave the whole collection as it was, though: a later load of a test
whose name the failed load took is refused as a duplicate (`failed_load_takes_names`).
-/

namespace RegexHighlight.Suite

/-- What a test must be to be loaded: an expected rejection is a known kind and comes with no
pieces, and otherwise the texts of the pieces make up the pattern. -/
def WellFormed (pattern : String) (spans : List (String × String)) (rejected : Option String) :
    Prop :=
  match rejected with
  | some kind => kind ∈ rejections ∧ spans = []
  | none => String.join (spans.map (·.2)) = pattern

theorem Entry.validate_eq_ok_iff (e : Entry) :
    e.validate = .ok () ↔ WellFormed e.pattern e.spans e.rejected := by
  unfold Entry.validate WellFormed
  cases e.rejected with
  | some kind =>
      dsimp only
      by_cases hk : rejections.contains kind = true
      · by_cases hs : e.spans.isEmpty = true
        · simp_all
        · simp_all
      · simp_all
  | none =>
      dsimp only
      split <;> simp_all

/-- What the admission of the tests of one load does: it admits some tests in order, each well
formed, named `group/name` and with a full name not taken before nor by an earlier one, and takes
their names; it ends with all the tests admitted, or with a failure. -/
theorem enroll_spec (group : String) :
    ∀ (es : List Entry) (index : Nat) (seen : List String) (acc : List Test),
      ∃ added : List Test,
        (enroll group es index seen acc).1 = seen ++ added.map Test.fullName ∧
        (added.map Test.fullName).Nodup ∧
        (∀ t ∈ added, t.fullName ∉ seen ∧ t.group = group ∧ t.fullName = group ++ "/" ++ t.name ∧
          WellFormed t.pattern t.spans t.rejected) ∧
        ((enroll group es index seen acc).2 = .ok (acc.reverse ++ added) ∨
          ∃ f, (enroll group es index seen acc).2 = .error f)
  | [], _, seen, acc => ⟨[], by simp [enroll], by simp, by simp, .inl (by simp [enroll])⟩
  | e :: es, index, seen, acc => by
      unfold enroll
      -- the name of the test, numbered when it has none
      obtain ⟨name, index', hname⟩ : ∃ name index', (if e.name.isEmpty then
          (toString index, index + 1) else (e.name, index)) = (name, index') := ⟨_, _, rfl⟩
      rw [hname]
      dsimp only
      cases hv : e.validate with
      | error why => exact ⟨[], by simp, by simp, by simp, .inr ⟨_, rfl⟩⟩
      | ok u =>
          dsimp only
          by_cases hseen : seen.contains (group ++ "/" ++ name) = true
          · rw [if_pos hseen]
            exact ⟨[], by simp, by simp, by simp, .inr ⟨_, rfl⟩⟩
          rw [if_neg hseen]
          obtain ⟨added, hs, hnodup, hadded, hres⟩ := enroll_spec group es index'
            (seen ++ [group ++ "/" ++ name])
            (⟨group, name, group ++ "/" ++ name, e.pattern, e.flags, e.spans, e.rejected⟩ :: acc)
          have hnew : group ++ "/" ++ name ∉ seen := by simpa [List.contains_iff_mem] using hseen
          refine ⟨⟨group, name, group ++ "/" ++ name, e.pattern, e.flags, e.spans, e.rejected⟩ :: added,
            by simp [hs], ?_, ?_, ?_⟩
          · -- the name just taken is not taken again
            refine List.nodup_cons.2 ⟨fun hmem => ?_, hnodup⟩
            obtain ⟨t, ht, htn⟩ := List.mem_map.1 hmem
            exact (hadded t ht).1 (by simp [htn])
          · rintro t (_ | ⟨_, ht⟩)
            · exact ⟨hnew, rfl, rfl, (Entry.validate_eq_ok_iff e).1 (by cases u; exact hv)⟩
            · obtain ⟨hn, hgroup, hfull, hwf⟩ := hadded t ht
              exact ⟨fun h => hn (List.mem_append_left _ h), hgroup, hfull, hwf⟩
          · rcases hres with hok | herr
            · exact .inl (by simp [hok])
            · exact .inr herr

/-! ## Collections -/

/-- A collection whose tests carry distinct full names `group/name`, every one of them taken,
and are well formed. -/
structure Collection.Sound (c : Collection) : Prop where
  distinct : (c.tests.toList.map Test.fullName).Nodup
  fullName : ∀ t ∈ c.tests.toList, t.fullName = t.group ++ "/" ++ t.name
  wellFormed : ∀ t ∈ c.tests.toList, WellFormed t.pattern t.spans t.rejected
  taken : ∀ t ∈ c.tests.toList, t.fullName ∈ c.seen

theorem Collection.sound_empty : ({} : Collection).Sound := ⟨by simp, by simp, by simp, by simp⟩

/-- Tests a load may admit into `c`: with distinct full names `group/name` not taken in `c`, and
well formed. -/
def Collection.Admissible (c : Collection) (added : List Test) : Prop :=
  (added.map Test.fullName).Nodup ∧ ∀ t ∈ added, t.fullName ∉ c.seen ∧
    t.fullName = t.group ++ "/" ++ t.name ∧ WellFormed t.pattern t.spans t.rejected

/-- The collection and result of a load into `c` that admitted `added`: a load that succeeds adds
them all and takes their names; one that fails adds none, though their names stay taken. -/
def Collection.Outcome (c : Collection) (added : List Test) (out : Collection × Except Failure Unit) :
    Prop :=
  (out.2 = .ok () ∧ out.1 = ⟨c.tests ++ added.toArray, c.seen ++ added.map Test.fullName⟩) ∨
    ∃ f, out.2 = .error f ∧ out.1 = ⟨c.tests, c.seen ++ added.map Test.fullName⟩

namespace Collection

variable {c : Collection} {added : List Test} {out : Collection × Except Failure Unit}

/-- A failed load leaves the tests of a collection, and only adds taken names. -/
theorem Outcome.of_error (h : c.Outcome added out) {f : Failure} (hf : out.2 = .error f) :
    out.1.tests = c.tests ∧ out.1.seen = c.seen ++ added.map Test.fullName := by
  rcases h with ⟨hok, -⟩ | ⟨_, -, hout⟩
  · rw [hok] at hf
    cases hf
  · rw [hout]
    exact ⟨rfl, rfl⟩

/-- A load keeps a collection sound. -/
theorem Sound.outcome (hc : c.Sound) (ha : c.Admissible added) (h : c.Outcome added out) :
    out.1.Sound := by
  obtain ⟨hnodup, hadded⟩ := ha
  rcases h with ⟨-, hout⟩ | ⟨f, -, hout⟩ <;> rw [hout]
  · refine ⟨?_, ?_, ?_, ?_⟩ <;> simp only [Array.toList_append, List.map_append, List.mem_append]
    · -- the names admitted were not taken, and every name loaded before was
      refine List.nodup_append.2 ⟨hc.distinct, hnodup, ?_⟩
      rintro _ hx _ hy rfl
      obtain ⟨t, ht, rfl⟩ := List.mem_map.1 hx
      obtain ⟨t', ht', htt'⟩ := List.mem_map.1 hy
      exact (hadded t' ht').1 (htt' ▸ hc.taken t ht)
    · rintro t (ht | ht)
      · exact hc.fullName t ht
      · exact (hadded t ht).2.1
    · rintro t (ht | ht)
      · exact hc.wellFormed t ht
      · exact (hadded t ht).2.2
    · rintro t (ht | ht)
      · exact .inl (hc.taken t ht)
      · exact .inr (List.mem_map.2 ⟨t, ht, rfl⟩)
  · exact ⟨hc.distinct, hc.fullName, hc.wellFormed,
      fun t ht => List.mem_append_left _ (hc.taken t ht)⟩

/-- A load that fails before it admits a test leaves the collection as it was. -/
theorem outcome_error (c : Collection) (f : Failure) :
    ∃ added, c.Admissible added ∧ c.Outcome added (c, .error f) :=
  ⟨[], by simp [Admissible], .inr ⟨f, rfl, by simp⟩⟩

end Collection

/-- Loading text either adds the tests it admits and takes their names, or fails: then it adds no
test, and the names it took are those of the tests it admitted before the failure. -/
theorem Collection.loadSlice_cases (c : Collection) (group : String) (data : List UInt8) :
    ∃ added, c.Admissible added ∧ c.Outcome added (c.loadSlice group data) := by
  unfold loadSlice
  split
  · exact c.outcome_error _
  · split
    · exact c.outcome_error _
    · next entries _ =>
        obtain ⟨added, hs, hnodup, hadded, hres⟩ := enroll_spec group entries 1 c.seen []
        have hadm : c.Admissible added := ⟨hnodup, fun t ht => by
          obtain ⟨hn, hg, hfull, hwf⟩ := hadded t ht
          exact ⟨hn, hg ▸ hfull, hwf⟩⟩
        refine ⟨added, hadm, ?_⟩
        rcases hres with hok | ⟨f, herr⟩
        · rw [show enroll group entries 1 c.seen [] = (c.seen ++ added.map Test.fullName, .ok added)
            from Prod.ext hs (by simpa using hok)]
          exact .inl ⟨rfl, rfl⟩
        · rw [show enroll group entries 1 c.seen [] = (c.seen ++ added.map Test.fullName, .error f)
            from Prod.ext hs herr]
          exact .inr ⟨f, rfl, rfl⟩

/-- Loading a file is loading its text under its stem, unless the file cannot be read or named,
when nothing changes. -/
theorem Collection.load_cases (c : Collection) (w : Workspace) (path : String) :
    ∃ added, c.Admissible added ∧ c.Outcome added (c.load w path) := by
  unfold load
  split
  · exact c.outcome_error _
  · split
    · exact c.outcome_error _
    · next _ bytes _ _ stem _ =>
        obtain ⟨added, hadm, hout⟩ := c.loadSlice_cases stem bytes
        refine ⟨added, hadm, ?_⟩
        -- the error of the load is put in context, which keeps whether it failed
        rcases hload : c.loadSlice stem bytes with ⟨c', r⟩
        rw [hload] at hout
        rcases hout with ⟨hok, hc⟩ | ⟨f, herr, hc⟩
        · simp only at hok hc
          subst hok hc
          exact .inl ⟨rfl, rfl⟩
        · simp only at herr hc
          subst herr hc
          exact .inr ⟨_, rfl, rfl⟩

/-- One call that loads tests into a collection: text under a group name, or a file of a working
directory under its stem. -/
inductive LoadCall
  | slice (group : String) (data : List UInt8)
  | file (w : Workspace) (path : String)

/-- Makes a call on a collection. -/
def LoadCall.apply : LoadCall → Collection → Collection × Except Failure Unit
  | .slice group data, c => c.loadSlice group data
  | .file w path, c => c.load w path

/-- The collection after a sequence of calls, whatever each returned. -/
def Collection.loadAll (c : Collection) (calls : List LoadCall) : Collection :=
  calls.foldl (fun c call => (call.apply c).1) c

theorem LoadCall.apply_cases (call : LoadCall) (c : Collection) :
    ∃ added, c.Admissible added ∧ c.Outcome added (call.apply c) := by
  cases call with
  | slice group data => exact c.loadSlice_cases group data
  | file w path => exact c.load_cases w path

theorem Collection.Sound.loadAll {c : Collection} (hc : c.Sound) (calls : List LoadCall) :
    (c.loadAll calls).Sound := by
  induction calls generalizing c with
  | nil => exact hc
  | cons call calls ih =>
      obtain ⟨added, hadm, hout⟩ := call.apply_cases c
      exact ih (hc.outcome hadm hout)

/-- Whatever loads are made, starting from an empty collection, the tests loaded carry distinct
full names `group/name` and are well formed: an expected rejection is a known kind with no
pieces, and otherwise the texts of the pieces make up the pattern. A load that fails leaves the
tests as they were and only takes more names. -/
theorem loads_keep_tests_distinct_and_valid (calls : List LoadCall) (c : Collection)
    (call : LoadCall) :
    (({} : Collection).loadAll calls).Sound ∧
      ((call.apply c).2.toBool = false →
        (call.apply c).1.tests = c.tests ∧
          ∃ taken : List String, (call.apply c).1.seen = c.seen ++ taken) := by
  refine ⟨Collection.sound_empty.loadAll calls, fun hfail => ?_⟩
  obtain ⟨added, -, hout⟩ := call.apply_cases c
  obtain ⟨f, hf⟩ : ∃ f, (call.apply c).2 = .error f := by
    cases h : (call.apply c).2 with
    | error f => exact ⟨f, rfl⟩
    | ok u => simp [h, Except.toBool] at hfail
  obtain ⟨htests, hseen⟩ := hout.of_error hf
  exact ⟨htests, _, hseen⟩

/-- The bytes of a text that is all ASCII. -/
def asciiBytes (s : String) : List UInt8 := s.toList.map Char.toUInt8

/-- A file of two tests, the second of which has no pieces for its pattern. -/
def partlyValidFile : List UInt8 :=
  asciiBytes "[[test]]\nname = \"a\"\npattern = \"\"\n\n[[test]]\nname = \"b\"\npattern = \"b\"\n"

/-- A file that holds the first test of `partlyValidFile` alone. -/
def firstTestFile : List UInt8 := asciiBytes "[[test]]\nname = \"a\"\npattern = \"\"\n"

theorem loads_keep_tests_distinct_and_valid_sample :
    (({} : Collection).loadAll [.slice "g" partlyValidFile]).Sound ∧
      (LoadCall.apply (.slice "g" partlyValidFile) {}).2.toBool = false ∧
      (LoadCall.apply (.slice "g" partlyValidFile) {}).1.tests = ({} : Collection).tests ∧
      ∃ taken : List String,
        (LoadCall.apply (.slice "g" partlyValidFile) {}).1.seen = ({} : Collection).seen ++ taken :=
  have hfail : (LoadCall.apply (.slice "g" partlyValidFile) {}).2.toBool = false := by decide +kernel
  have hloads := loads_keep_tests_distinct_and_valid [.slice "g" partlyValidFile] {}
    (.slice "g" partlyValidFile)
  ⟨hloads.1, hfail, hloads.2 hfail⟩

/-- A failed load does not leave the collection as it was: loading `partlyValidFile` fails and
adds no test, yet loading `firstTestFile` afterwards fails, since the failed load took the name
`g/a`, while loading it into the empty collection succeeds. -/
theorem failed_load_takes_names :
    (({} : Collection).loadSlice "g" partlyValidFile).2.toBool = false ∧
      (({} : Collection).loadSlice "g" partlyValidFile).1.tests = #[] ∧
      ((({} : Collection).loadSlice "g" partlyValidFile).1.loadSlice "g" firstTestFile).2.toBool =
        false ∧
      (({} : Collection).loadSlice "g" firstTestFile).2.toBool = true := by
  decide +kernel

end RegexHighlight.Suite
