import Mathlib.Data.List.Induction
import RegexHighlight.Proofs.Modes

/-!
# Reading and writing flag strings

`Mode.parse` reads a flag string in one pass. A string is *clean* when every character is a
flag and none repeats; reading a clean prefix only records its flags (`parseFrom_append`), so
the verdict on a string is decided at its first character that is no flag or repeats an
earlier one, and only a clean string is refused for holding `v` (`read_flag_strings`).

The other direction is `Mode.flags`: it writes the set flags as a subsequence of `dgimsuvy`,
which is a clean string, so reading it gives the mode back unless `v` is set, and a mode read
from a string writes a permutation of that string.
-/

namespace RegexHighlight

/-! ## Flags and their letters -/

namespace Flag

@[simp] theorem ofChar?_letter (f : Flag) : ofChar? f.letter = some f := by
  cases f <;> rfl

theorem ofChar?_eq_some_iff {c : Char} {f : Flag} : ofChar? c = some f ↔ f.letter = c :=
  ⟨Mode.letter_of_ofChar?, by rintro rfl; exact ofChar?_letter f⟩

theorem letter_injective : Function.Injective letter := by
  intro f g h
  have hg : ofChar? f.letter = some g := by
    rw [h]
    exact ofChar?_letter g
  exact Option.some.inj ((ofChar?_letter f).symm.trans hg)

/-- The canonical flag string `dgimsuvy`, written by `Flag.all`, repeats no letter. -/
theorem nodup_map_letter_all : (all.map letter).Nodup := by
  decide

theorem mem_all (f : Flag) : f ∈ all := by
  cases f <;> decide

theorem ofChar?_eq_none_iff {c : Char} : ofChar? c = none ↔ c ∉ all.map letter := by
  rw [Option.eq_none_iff_forall_ne_some]
  simp only [ne_eq, ofChar?_eq_some_iff, List.mem_map, not_exists, not_and]
  exact ⟨fun h f _ => h f, fun h f => h f (mem_all f)⟩

theorem mem_filterMap_ofChar? {cs : List Char} {f : Flag} :
    f ∈ cs.filterMap ofChar? ↔ f.letter ∈ cs := by
  simp only [List.mem_filterMap, ofChar?_eq_some_iff]
  exact ⟨fun ⟨c, hc, h⟩ => h ▸ hc, fun h => ⟨_, h, rfl⟩⟩

/-- A flag string with no problem in it: every character is one of the letters `dgimsuvy`
and none repeats. -/
def Clean (cs : List Char) : Prop :=
  (∀ c ∈ cs, c ∈ all.map letter) ∧ cs.Nodup

instance (cs : List Char) : Decidable (Clean cs) :=
  inferInstanceAs (Decidable (_ ∧ _))

theorem clean_nil : Clean [] := by
  simp [Clean]

theorem clean_append_singleton {cs : List Char} {c : Char} :
    Clean (cs ++ [c]) ↔ Clean cs ∧ c ∈ all.map letter ∧ c ∉ cs := by
  simp only [Clean, List.mem_append, List.mem_singleton, List.nodup_append, List.nodup_cons,
    List.not_mem_nil, not_false_eq_true, List.nodup_nil, and_self, ne_eq, forall_eq, true_and]
  constructor
  · rintro ⟨hall, hnd, hne⟩
    exact ⟨⟨fun a ha => hall a (.inl ha), hnd⟩, hall c (.inr rfl), fun hc => hne c hc rfl⟩
  · rintro ⟨⟨hall, hnd⟩, hc, hnot⟩
    refine ⟨?_, hnd, fun a ha hac => hnot (hac ▸ ha)⟩
    rintro a (ha | rfl)
    · exact hall a ha
    · exact hc

/-- A string that is not clean has a first problem: a prefix that is clean, followed by a
character that is no flag or repeats one of the prefix. -/
theorem exists_first_problem {cs : List Char} (h : ¬ Clean cs) :
    ∃ pre c post, cs = pre ++ c :: post ∧ Clean pre ∧ (c ∉ all.map letter ∨ c ∈ pre) := by
  induction cs using List.reverseRecOn with
  | nil => exact absurd clean_nil h
  | append_singleton cs c ih =>
      by_cases hcs : Clean cs
      · -- the problem is the last character
        refine ⟨cs, c, [], rfl, hcs, ?_⟩
        rw [clean_append_singleton] at h
        by_cases hc : c ∈ all.map letter
        · exact .inr (Classical.not_not.1 fun hnot => h ⟨hcs, hc, hnot⟩)
        · exact .inl hc
      · obtain ⟨pre, c', post, rfl, hpre, hc'⟩ := ih hcs
        exact ⟨pre, c', post ++ [c], by simp, hpre, hc'⟩

end Flag

/-! ## Modes as sets of flags -/

namespace Mode

theorem get_set (m : Mode) (f g : Flag) (on : Bool) :
    (m.set f on).get g = if g = f then on else m.get g := by
  cases f <;> cases g <;> rfl

/-- A mode is determined by the flags it has. -/
theorem ext_get {m m' : Mode} (h : ∀ f, m.get f = m'.get f) : m = m' := by
  obtain ⟨d, g, i, mu, s, u, v, y⟩ := m
  obtain ⟨d', g', i', mu', s', u', v', y'⟩ := m'
  simp only [Mode.mk.injEq]
  exact ⟨h .hasIndices, h .global, h .ignoreCase, h .multiline, h .dotAll, h .unicode,
    h .unicodeSets, h .sticky⟩

/-- The mode with each flag of `fs` turned on and no other: what reading a clean string builds. -/
def ofFlags (fs : List Flag) : Mode :=
  fs.foldl (fun m f => m.set f true) {}

theorem get_foldl_set (fs : List Flag) (m : Mode) (g : Flag) :
    (fs.foldl (fun m f => m.set f true) m).get g = (m.get g || decide (g ∈ fs)) := by
  induction fs generalizing m with
  | nil => simp
  | cons f fs ih =>
      rw [List.foldl_cons, ih, get_set]
      by_cases hg : g = f <;> simp [hg]

/-! ## Reading a flag string -/

section Reading

variable {flags : String} {c : Char} {cs : List Char} {seen : List Flag} {m : Mode}

theorem parseFrom_unrecognized (h : Flag.ofChar? c = none) :
    parseFrom flags (c :: cs) seen m = .error ⟨.unrecognized c, flags⟩ := by
  simp [parseFrom, h]

theorem parseFrom_repeated {f : Flag} (h : Flag.ofChar? c = some f) (hf : f ∈ seen) :
    parseFrom flags (c :: cs) seen m = .error ⟨.repeated c, flags⟩ := by
  simp [parseFrom, h, hf]

/-- One step: a flag not read before is recorded and set. -/
theorem parseFrom_fresh {f : Flag} (h : Flag.ofChar? c = some f) (hf : f ∉ seen) :
    parseFrom flags (c :: cs) seen m = parseFrom flags cs (f :: seen) (m.set f true) := by
  simp [parseFrom, h, hf]

/-- Reading a clean prefix whose flags were not read before only records them and sets them. -/
theorem parseFrom_append {pre : List Char} (rest : List Char) (hpre : Flag.Clean pre)
    (hseen : ∀ f ∈ seen, f.letter ∉ pre) :
    parseFrom flags (pre ++ rest) seen m =
      parseFrom flags rest ((pre.filterMap Flag.ofChar?).reverse ++ seen)
        ((pre.filterMap Flag.ofChar?).foldl (fun m f => m.set f true) m) := by
  induction pre generalizing seen m with
  | nil => rfl
  | cons c pre ih =>
      obtain ⟨hall, hnd⟩ := hpre
      obtain ⟨f, -, hletter⟩ := List.mem_map.1 (hall c (by simp))
      have hf : Flag.ofChar? c = some f := Flag.ofChar?_eq_some_iff.2 hletter
      have hfresh : f ∉ seen := fun hmem => hseen f hmem (by simp [hletter])
      rw [List.cons_append, parseFrom_fresh hf hfresh]
      -- the rest of the prefix is clean and holds neither `c` nor a flag read before
      have hclean : Flag.Clean pre :=
        ⟨fun a ha => hall a (by simp [ha]), (List.nodup_cons.1 hnd).2⟩
      have hseen' : ∀ g ∈ f :: seen, g.letter ∉ pre := by
        rintro g (_ | ⟨_, hg⟩)
        · exact hletter ▸ (List.nodup_cons.1 hnd).1
        · exact fun hmem => hseen g hg (by simp [hmem])
      rw [ih hclean hseen']
      simp [hf]

/-- The mode a clean string writes: each of its flags set, and no other. -/
theorem get_ofFlags_filterMap (cs : List Char) (g : Flag) :
    (ofFlags (cs.filterMap Flag.ofChar?)).get g = decide (g.letter ∈ cs) := by
  rw [ofFlags, get_foldl_set, decide_eq_decide.2 Flag.mem_filterMap_ofChar?]
  cases g <;> rfl

theorem parse_clean (h : Flag.Clean flags.toList) :
    parse flags = if 'v' ∈ flags.toList then .error ⟨.unsupported 'v', flags⟩
      else .ok (ofFlags (flags.toList.filterMap Flag.ofChar?)) := by
  have hread : parseFrom flags (flags.toList ++ []) [] {} = _ := parseFrom_append [] h (by simp)
  rw [List.append_nil] at hread
  rw [parse, hread, parseFrom]
  -- `v` is set exactly when the string holds it
  have hv : (ofFlags (flags.toList.filterMap Flag.ofChar?)).unicodeSets =
      decide ('v' ∈ flags.toList) :=
    get_ofFlags_filterMap _ .unicodeSets
  rw [← ofFlags, hv]
  by_cases hmem : 'v' ∈ flags.toList <;> simp [hmem]

theorem parse_unrecognized {pre post : List Char} (h : flags.toList = pre ++ c :: post)
    (hpre : Flag.Clean pre) (hc : c ∉ Flag.all.map Flag.letter) :
    parse flags = .error ⟨.unrecognized c, flags⟩ := by
  rw [parse, h, parseFrom_append _ hpre (by simp)]
  exact parseFrom_unrecognized (Flag.ofChar?_eq_none_iff.2 hc)

theorem parse_repeated {pre post : List Char} (h : flags.toList = pre ++ c :: post)
    (hpre : Flag.Clean pre) (hc : c ∈ pre) :
    parse flags = .error ⟨.repeated c, flags⟩ := by
  obtain ⟨f, -, rfl⟩ := List.mem_map.1 (hpre.1 c hc)
  rw [parse, h, parseFrom_append _ hpre (by simp)]
  apply parseFrom_repeated (Flag.ofChar?_letter f)
  rw [List.append_nil, List.mem_reverse, Flag.mem_filterMap_ofChar?]
  exact hc

/-- Every flag error names the whole flag string. -/
theorem parse_error_flags {e : FlagError} (h : parse flags = .error e) : e.flags = flags := by
  by_cases hclean : Flag.Clean flags.toList
  · rw [parse_clean hclean] at h
    split at h <;> cases h
    rfl
  · obtain ⟨pre, c, post, hsplit, hpre, hc | hc⟩ := Flag.exists_first_problem hclean
    · rw [parse_unrecognized hsplit hpre hc] at h
      cases h
      rfl
    · rw [parse_repeated hsplit hpre hc] at h
      cases h
      rfl

/-- A string that is read without an error is clean. -/
theorem clean_of_parse_ok (h : parse flags = .ok m) : Flag.Clean flags.toList := by
  by_contra hclean
  obtain ⟨pre, c, post, hsplit, hpre, hc | hc⟩ := Flag.exists_first_problem hclean
  · rw [parse_unrecognized hsplit hpre hc] at h
    cases h
  · rw [parse_repeated hsplit hpre hc] at h
    cases h

end Reading

/-! ## Writing a mode -/

theorem mem_flags_iff (m : Mode) (f : Flag) : f.letter ∈ m.flags.toList ↔ m.get f = true := by
  simp only [flags, String.toList_ofList, List.mem_map, List.mem_filter]
  constructor
  · rintro ⟨g, ⟨-, hg⟩, hfg⟩
    exact Flag.letter_injective hfg ▸ hg
  · exact fun hf => ⟨f, ⟨Flag.mem_all f, hf⟩, rfl⟩

/-- The flags of a mode are written in the canonical order `dgimsuvy`. -/
theorem flags_sublist (m : Mode) : List.Sublist m.flags.toList (Flag.all.map Flag.letter) := by
  simp only [flags, String.toList_ofList]
  exact (List.filter_sublist).map _

theorem clean_flags (m : Mode) : Flag.Clean m.flags.toList :=
  ⟨fun _ hc => (flags_sublist m).subset hc, (flags_sublist m).nodup Flag.nodup_map_letter_all⟩

/-- Reading the flag string of a mode gives the mode back, unless it has `v`. -/
theorem parse_flags (m : Mode) :
    parse m.flags = if m.unicodeSets then .error ⟨.unsupported 'v', m.flags⟩ else .ok m := by
  rw [parse_clean (clean_flags m)]
  have hv : ('v' ∈ m.flags.toList) = (m.unicodeSets = true) :=
    propext (mem_flags_iff m .unicodeSets)
  have hmode : ofFlags (m.flags.toList.filterMap Flag.ofChar?) = m :=
    ext_get fun g => by
      rw [get_ofFlags_filterMap]
      exact Bool.eq_iff_iff.2 (by rw [decide_eq_true_iff]; exact mem_flags_iff m g)
  simp only [hv, hmode]

/-- A mode read from a string writes that string's flags in canonical order. -/
theorem flags_perm_of_parse {flags : String} {m : Mode} (h : parse flags = .ok m) :
    m.flags.toList.Perm flags.toList := by
  have hclean := clean_of_parse_ok h
  rw [parse_clean hclean] at h
  split at h
  · cases h
  · cases h
    refine (List.perm_ext_iff_of_nodup (clean_flags _).2 hclean.2).2 fun c => ?_
    -- every character on either side is the letter of a flag
    constructor
    · intro hc
      obtain ⟨f, -, rfl⟩ := List.mem_map.1 ((clean_flags _).1 c hc)
      rw [mem_flags_iff, get_ofFlags_filterMap] at hc
      simpa using hc
    · intro hc
      obtain ⟨f, -, rfl⟩ := List.mem_map.1 (hclean.1 c hc)
      rw [mem_flags_iff, get_ofFlags_filterMap]
      simpa using hc

end Mode

/-- How flag strings are read and written. A string is refused at its first character that is
no flag or repeats an earlier one: as unrecognized when it is no flag, and as repeated
otherwise. A clean string is refused for holding `v`, and otherwise read as the mode with
exactly its flags set; every error names the whole string. A mode writes its flags in the order
`dgimsuvy`, and its flag string reads back to it unless `v` is set, in which case reading that
string and classifying under the mode both fail with the same error. So a mode read from a
string writes a permutation of that string. -/
theorem flag_strings_read_back :
    (∀ (flags : String) (pre : List Char) (c : Char) (post : List Char),
      flags.toList = pre ++ c :: post → Flag.Clean pre →
        (c ∉ Flag.all.map Flag.letter → Mode.parse flags = .error ⟨.unrecognized c, flags⟩) ∧
        (c ∈ pre → Mode.parse flags = .error ⟨.repeated c, flags⟩)) ∧
    (∀ flags : String, Flag.Clean flags.toList →
      ('v' ∈ flags.toList → Mode.parse flags = .error ⟨.unsupported 'v', flags⟩) ∧
      ('v' ∉ flags.toList →
        ∃ m, Mode.parse flags = .ok m ∧ ∀ f, m.get f = decide (f.letter ∈ flags.toList))) ∧
    (∀ (flags : String) (e : FlagError), Mode.parse flags = .error e → e.flags = flags) ∧
    (∀ m : Mode,
      List.Sublist m.flags.toList (Flag.all.map Flag.letter) ∧
      (∀ f, f.letter ∈ m.flags.toList ↔ m.get f = true) ∧
      (m.unicodeSets = false → Mode.parse m.flags = .ok m) ∧
      (m.unicodeSets = true → Mode.parse m.flags = .error ⟨.unsupported 'v', m.flags⟩ ∧
        ∀ pattern, classify pattern m = .error ⟨.unsupported 'v', m.flags⟩)) ∧
    ∀ (flags : String) (m : Mode), Mode.parse flags = .ok m →
      m.flags.toList.Perm flags.toList := by
  refine ⟨fun flags pre c post h hpre =>
      ⟨Mode.parse_unrecognized h hpre, Mode.parse_repeated h hpre⟩,
    fun flags hclean => ⟨fun hv => ?_, fun hv => ?_⟩, fun _ _ => Mode.parse_error_flags,
    fun m => ⟨Mode.flags_sublist m, Mode.mem_flags_iff m, fun hv => ?_, fun hv => ⟨?_, ?_⟩⟩,
    fun _ _ => Mode.flags_perm_of_parse⟩
  · simp [Mode.parse_clean hclean, hv]
  · exact ⟨_, by simp [Mode.parse_clean hclean, hv], Mode.get_ofFlags_filterMap _⟩
  · simp [Mode.parse_flags, hv]
  · simp [Mode.parse_flags, hv]
  · simp [classify, hv]

/-- The verdicts on `xgg`, `gvg` and `giv`, and the mode `yu` read back from its flag string. -/
theorem flag_strings_read_back_sample :
    Mode.parse "xgg" = .error ⟨.unrecognized 'x', "xgg"⟩ ∧
      Mode.parse "gvg" = .error ⟨.repeated 'g', "gvg"⟩ ∧
      Mode.parse "giv" = .error ⟨.unsupported 'v', "giv"⟩ ∧
      Mode.parse ({ unicode := true, sticky := true } : Mode).flags =
        .ok { unicode := true, sticky := true } ∧
      classify "a" { global := true, unicodeSets := true } = .error ⟨.unsupported 'v', "gv"⟩ ∧
      List.Perm ({ unicode := true, sticky := true } : Mode).flags.toList "yu".toList := by
  have hyu : Mode.parse "yu" = .ok { unicode := true, sticky := true } := by decide
  have hv : ({ global := true, unicodeSets := true } : Mode).flags = "gv" := by decide
  refine ⟨(flag_strings_read_back.1 "xgg" [] 'x' ['g', 'g'] rfl Flag.clean_nil).1
      (by simp [Flag.all, Flag.letter]),
    (flag_strings_read_back.1 "gvg" ['g', 'v'] 'g' [] rfl
      ⟨by simp [Flag.all, Flag.letter], by simp⟩).2 List.mem_cons_self,
    (flag_strings_read_back.2.1 "giv" ⟨by simp [Flag.all, Flag.letter], by simp⟩).1 (by simp),
    (flag_strings_read_back.2.2.2.1 _).2.2.1 rfl,
    hv ▸ ((flag_strings_read_back.2.2.2.1 _).2.2.2 rfl).2 "a",
    flag_strings_read_back.2.2.2.2 "yu" _ hyu⟩

end RegexHighlight
