import RegexHighlight.Proofs.Safety

/-!
# Backreferences

A pattern's capturing groups are counted before classification starts, over every top-level
opening `(` or `(?<name>` of the whole pattern, and the count is kept as a 32-bit word that
stops at its largest value (`Captures.total_ofTokens`). An escape becomes a backreference when
it is `\` with a number at most that count, or `\k<name>` with the name of a group
(`Captures.refers`); every other piece, and every piece of a class, is no backreference.

Read in terms of the pattern (`refersTo`), a number is compared with the real group count. The
two agree while the count fits in the word; once a pattern has `wordLimit` capturing groups or
more, every decimal escape is a backreference, however large its number
(`classify_backreferences`, `backreference_beyond_group_count`).
-/

namespace RegexHighlight

/-! ## The capturing groups of a pattern -/

/-- The capturing group openings among some tokens: `(` and `(?<name>`, valid or not. -/
def capturing (ts : List Token) : List Token :=
  ts.filter fun t => t.kind = .groupOpen && Opening.isCapturing t.text

/-- The names of the named capturing groups among some tokens, repeats included. -/
def captureNames (ts : List Token) : List (List Char) :=
  (capturing ts).filterMap fun t => Opening.captureName? t.text

namespace Captures

theorem total_foldl_add (l : List Token) {info : Captures} (h : info.total ≤ wordLimit) :
    (l.foldl (fun i t => i.add t.text) info).total = min (info.total + l.length) wordLimit := by
  induction l generalizing info with
  | nil => simpa using h
  | cons t l ih =>
      rw [List.foldl_cons, ih (by simp [add])]
      simp only [add, List.length_cons]
      omega

theorem mem_names_foldl_add (l : List Token) (info : Captures) (n : List Char) :
    n ∈ (l.foldl (fun i t => i.add t.text) info).names ↔
      n ∈ info.names ∨ ∃ t ∈ l, Opening.captureName? t.text = some n := by
  induction l generalizing info with
  | nil => simp
  | cons t l ih =>
      rw [List.foldl_cons, ih]
      -- a name joins the list once, at its first group
      have hadd : n ∈ (info.add t.text).names ↔
          n ∈ info.names ∨ Opening.captureName? t.text = some n := by
        cases hname : Opening.captureName? t.text with
        | none => simp [add, hname]
        | some name =>
            by_cases hmem : name ∈ info.names
            · simp only [add, hname, List.contains_iff_mem, hmem, if_true, Option.some.injEq]
              constructor
              · exact .inl
              · rintro (h | rfl)
                · exact h
                · exact hmem
            · simp [add, hname, hmem, eq_comm]
      rw [hadd]
      simp only [List.mem_cons, exists_eq_or_imp]
      tauto

/-- The prescan counts the capturing openings, up to `wordLimit`. -/
theorem total_ofTokens (ts : List Token) :
    (ofTokens ts).total = min (capturing ts).length wordLimit := by
  rw [ofTokens, total_foldl_add _ (by simp [wordLimit]), Nat.zero_add, capturing]

/-- The prescan collects the names of the named capturing openings. -/
theorem mem_names_ofTokens (ts : List Token) (n : List Char) :
    n ∈ (ofTokens ts).names ↔ n ∈ captureNames ts := by
  rw [ofTokens, mem_names_foldl_add, captureNames, List.mem_filterMap, capturing]
  simp

/-- Whether classification, knowing the capturing groups `info`, reads the escape `text` as a
backreference: a digit from 1 to 9 starts a number that, saturated to a word, is at most the
count; `\k<name>` names a group. -/
def refers (info : Captures) (text : List Char) : Bool :=
  match text with
  | _ :: c :: _ =>
    if '1' ≤ c && c ≤ '9' then decide (min (decimalValue (text.drop 1)) wordLimit ≤ info.total)
    else (backreferenceName? text).any info.names.contains
  | _ => false

theorem refers_digit (info : Captures) {x c : Char} (rest : List Char) (hc : '1' ≤ c ∧ c ≤ '9') :
    info.refers (x :: c :: rest) =
      decide (min (decimalValue (c :: rest)) wordLimit ≤ info.total) := by
  simp [refers, hc.1, hc.2]

theorem refers_not_digit (info : Captures) {x c : Char} (rest : List Char)
    (hc : ¬('1' ≤ c ∧ c ≤ '9')) :
    info.refers (x :: c :: rest) = (backreferenceName? (x :: c :: rest)).any info.names.contains := by
  rw [refers, if_neg (by simpa using hc)]

end Captures

theorem backreferenceName?_eq_none {x c : Char} (rest : List Char) (hc : c ≠ 'k') :
    backreferenceName? (x :: c :: rest) = none := by
  unfold backreferenceName?
  split <;> simp_all

/-- Only escapes give backreferences. -/
theorem TokenKind.ne_backreference {kind : TokenKind} {c : Category} (hk : kind ≠ .escape)
    (hc : kind.allows c = true) : c ≠ .backreference := by
  rintro rfl
  cases kind <;> simp_all [TokenKind.allows]

namespace Classifier

/-- `s'` holds the pieces of `s` and new ones, among which only the piece of the whole `text`
can be a backreference, and is one exactly when `b` holds. -/
def AddsBackref (s s' : Classifier) (pos : Nat) (text : List Char) (b : Bool) : Prop :=
  ∃ new, s'.pieces.toList = s.pieces.toList ++ new ∧
    new.filter (·.category = .backreference) = if b then [piece pos text .backreference] else []

section AddsBackref

variable {s : Classifier} {pos : Nat} {text : List Char}

theorem addsBackref_emit (c : Category) :
    AddsBackref s (s.emit pos text c) pos text (decide (c = .backreference)) := by
  refine ⟨[piece pos text c], by simp, ?_⟩
  by_cases hc : c = .backreference <;> simp [hc, piece]

theorem addsBackref_report (d : Diagnostic) : AddsBackref s (s.report pos text d) pos text false :=
  ⟨[piece pos text (.error d)], by simp, by simp [piece]⟩

theorem addsBackref_emitSplit (cut : Nat) {c : Category} (hc : c ≠ .backreference) :
    AddsBackref s (s.emitSplit pos text cut c) pos text false := by
  refine ⟨_, emitSplit_pieces s pos text cut c, ?_⟩
  split <;> simp [piece, hc]

end AddsBackref

section Steps

variable (setting : Setting) (s : Classifier) (pos : Nat) (text : List Char)

theorem addsBackref_decimalEscape :
    AddsBackref s (s.decimalEscape setting pos text).1 pos text
      (decide (min (decimalValue (text.drop 1)) wordLimit ≤ setting.captures.total)) := by
  dsimp only [decimalEscape]
  split_ifs with h1
  · rw [decide_eq_true h1]
    simpa using addsBackref_emit .backreference
  · rw [decide_eq_false h1]
    exact addsBackref_report _
  · rw [decide_eq_false h1]
    exact addsBackref_emitSplit _ (by decide)
  · rw [decide_eq_false h1]
    exact addsBackref_emitSplit _ (by decide)

theorem addsBackref_namedBackreference :
    AddsBackref s (s.namedBackreference setting pos text).1 pos text
      ((backreferenceName? text).any setting.captures.names.contains) := by
  unfold namedBackreference
  split
  · split
    · next name hname =>
        split
        · next hc =>
            rw [hname, Option.any_some, hc]
            simpa using addsBackref_emit .backreference
        · next hc =>
            have hf : setting.captures.names.contains name = false := by simpa using hc
            rw [hname, Option.any_some, hf]
            exact addsBackref_report _
    · next hname =>
        rw [hname, Option.any_none]
        exact addsBackref_report _
  · next hnames =>
      -- without named groups no name is found
      have hnil : setting.captures.names = [] := by
        simpa [Captures.hasNames] using hnames
      have hnone : (backreferenceName? text).any setting.captures.names.contains = false := by
        rw [hnil]
        cases backreferenceName? text <;> rfl
      rw [hnone]
      split
      · exact addsBackref_report _
      · exact addsBackref_emitSplit _ (by decide)

theorem addsBackref_escape :
    AddsBackref s (s.escape setting pos text).1 pos text (setting.captures.refers text) := by
  rcases escape_cases setting s pos text with
    ⟨x, c, rest, rfl, hc, he⟩ | ⟨x, rest, rfl, he⟩ | ⟨hnot, _, ⟨d, -, he⟩ | ⟨c, hc, he⟩⟩ <;>
    rw [he]
  · rw [Captures.refers_digit _ rest hc]
    simpa using addsBackref_decimalEscape setting s pos (x :: c :: rest)
  · simpa [Captures.refers] using addsBackref_namedBackreference setting s pos (x :: 'k' :: rest)
  -- every other escape is one piece, an error, a metasequence or an escaped literal
  all_goals
    have hnone : setting.captures.refers text = false := by
      rcases text with _ | ⟨x, _ | ⟨c, rest⟩⟩
      · rfl
      · rfl
      · obtain ⟨hd, hk⟩ := hnot x c rest rfl
        rw [Captures.refers_not_digit _ rest hd, backreferenceName?_eq_none rest hk]
        rfl
    rw [hnone]
  · exact addsBackref_report _
  · rcases hc with rfl | rfl <;> exact addsBackref_emit _

/-- A step adds a backreference only for an escape that refers to a group. -/
theorem addsBackref_step (ctx : Context) {t : Token} (ht : t.text ≠ []) :
    AddsBackref s (s.step setting ctx pos t).1 pos t.text
      (decide (t.kind = .escape) && setting.captures.refers t.text) := by
  obtain ⟨kind, text⟩ := t
  by_cases hk : kind = .escape
  · subst hk
    simp only [decide_true, Bool.true_and]
    exact addsBackref_escape setting s pos text
  · -- the categories other tokens get are never a backreference
    obtain ⟨new, hpieces, -, hallow⟩ := appends_step setting s pos ctx ht
    refine ⟨new, hpieces, ?_⟩
    simp only [hk, decide_false, Bool.false_and, Bool.false_eq_true, if_false]
    refine List.filter_eq_nil_iff.2 fun q hq => ?_
    simpa using TokenKind.ne_backreference hk (hallow q hq)

end Steps

/-- The backreferences a run adds are the pieces of the escapes that refer to a group, in
order. -/
theorem filter_backreference_run (setting : Setting) {ts : List Token}
    (hts : ∀ t ∈ ts, t.text ≠ []) :
    ∀ (s : Classifier) (ctx : Context) (pos : Nat),
      (run setting s ctx pos ts).pieces.toList.filter (·.category = .backreference) =
        s.pieces.toList.filter (·.category = .backreference) ++
          (withOffsets pos ts).filterMap fun x =>
            if x.2.kind = .escape ∧ setting.captures.refers x.2.text = true then
              some (piece x.1 x.2.text .backreference)
            else none := by
  induction ts with
  | nil => intro s ctx pos; simp [run, withOffsets]
  | cons t ts ih =>
      intro s ctx pos
      obtain ⟨new, hpieces, hnew⟩ := addsBackref_step setting s pos ctx (hts t List.mem_cons_self)
      have hrest := ih (fun t' ht' => hts t' (List.mem_cons_of_mem _ ht'))
        (s.step setting ctx pos t).1 (s.step setting ctx pos t).2 (pos + utf8Length t.text)
      simp only [run, withOffsets, List.filterMap_cons]
      rw [hrest, hpieces, List.filter_append, hnew, List.append_assoc]
      congr 1
      by_cases hb : t.kind = .escape ∧ setting.captures.refers t.text = true
      · simp [hb]
      · simp only [hb, if_false]
        have hb' : (decide (t.kind = .escape) && setting.captures.refers t.text) = false := by
          simpa using hb
        simp [hb']

/-- Reporting groups left open changes no backreference, provided only pieces that are no
backreference are reported. -/
theorem filter_backreference_mapIdx (l : List Piece) (P : Nat → Bool)
    (hP : ∀ i (h : i < l.length), P i = true → l[i].category ≠ .backreference) :
    (l.mapIdx fun i q => if P i then q.markUnclosed else q).filter
        (·.category = .backreference) = l.filter (·.category = .backreference) := by
  induction l using List.reverseRecOn with
  | nil => simp
  | append_singleton l q ih =>
      have ih' := ih fun i h hPi => by
        have hlast := hP i (by simp; omega) hPi
        rwa [List.getElem_append_left h] at hlast
      rw [List.mapIdx_append, List.filter_append, ih', List.filter_append]
      congr 1
      by_cases hp : P l.length
      · have hq : q.category ≠ .backreference := by simpa using hP l.length (by simp) hp
        simp [hp, hq, Piece.markUnclosed]
      · simp [hp]

theorem filter_backreference_finish {s : Classifier} {opens : List (Nat × Token)}
    (hs : ∀ g ∈ s.stack, g.PointsAt s.pieces.toList opens) :
    s.finish.pieces.toList.filter (·.category = .backreference) =
      s.pieces.toList.filter (·.category = .backreference) := by
  rw [finish_pieces]
  apply filter_backreference_mapIdx
  intro i hi hany
  -- a reported piece is the opening of a valid group, a group boundary
  obtain ⟨g, hg, hgi⟩ := List.any_eq_true.1 hany
  simp only [Bool.and_eq_true, beq_iff_eq] at hgi
  obtain ⟨p, hp, -, hcat⟩ := hs g hg
  rw [hgi.2] at hp
  have hpi : s.pieces.toList[i] = p := (List.getElem?_eq_some_iff.1 hp).2
  rw [hpi, hcat hgi.1]
  simp

/-- The backreferences of a classification are the pieces of the escape tokens that refer to a
group, as the prescan counts and names the groups. -/
theorem filter_backreference_ofPattern (mode : Mode) (pattern : String) :
    (ofPattern mode pattern).finish.pieces.toList.filter (·.category = .backreference) =
      (withOffsets 0 (tokenize mode.unicodeAware pattern.toList)).filterMap fun x =>
        if x.2.kind = .escape ∧ (Setting.ofPattern mode pattern).captures.refers x.2.text = true
        then some (piece x.1 x.2.text .backreference)
        else none := by
  have hts : ∀ t ∈ tokenize mode.unicodeAware pattern.toList, t.text ≠ [] :=
    fun _ ht => text_ne_nil_of_mem_tokenize ht
  rw [filter_backreference_finish (pointsAt_ofPattern mode pattern), ofPattern,
    filter_backreference_run (Setting.ofPattern mode pattern) hts]
  simp

end Classifier

/-! ## Backreferences in terms of the pattern -/

/-- The number of a decimal escape: a backslash, a digit from 1 to 9 and more digits. -/
def decimalReference? : List Char → Option Nat
  | '\\' :: d :: ds =>
    if '1' ≤ d && d ≤ '9' && ds.all Shape.isDigit then some (decimalValue (d :: ds)) else none
  | _ => none

theorem decimalReference?_digits {c : Char} {more : List Char} (hc : '1' ≤ c ∧ c ≤ '9')
    (hmore : more.all Shape.isDigit = true) :
    decimalReference? ('\\' :: c :: more) = some (decimalValue (c :: more)) := by
  simp [decimalReference?, hc.1, hc.2, hmore]

theorem decimalReference?_not_digit {c : Char} (more : List Char) (hc : ¬('1' ≤ c ∧ c ≤ '9')) :
    decimalReference? ('\\' :: c :: more) = none := by
  rw [decimalReference?, if_neg]
  simp only [Bool.and_eq_true, decide_eq_true_eq]
  exact fun h => hc h.1

/-- Whether the escape `text` is a backreference in a pattern with `count` capturing groups
named `names`: `\` and a number at most `count`, or `\k<name>` with `name` among `names`. -/
def refersTo (count : Nat) (names : List (List Char)) (text : List Char) : Bool :=
  (decimalReference? text).any (fun v => decide (v ≤ count)) ||
    (backreferenceName? text).any names.contains

theorem mem_of_mem_withOffsets {pos : Nat} {ts : List Token} {x : Nat × Token}
    (h : x ∈ withOffsets pos ts) : x.2 ∈ ts := by
  induction ts generalizing pos with
  | nil => simp [withOffsets] at h
  | cons t ts ih =>
      rcases List.mem_cons.1 h with rfl | h
      · exact List.mem_cons_self
      · exact List.mem_cons_of_mem _ (ih h)

theorem min_wordLimit_le_iff {v c : Nat} :
    min v wordLimit ≤ min c wordLimit ↔ v ≤ c ∨ wordLimit ≤ c := by
  omega

/-- On an escape token, the classifier's test is the test by the real group count, except that a
number passes whatever its value once the count reaches `wordLimit`. -/
theorem refers_ofTokens {unicode : Bool} {cs : List Char} {t : Token}
    (ht : t ∈ tokenize unicode cs) (hk : t.kind = .escape) :
    (Captures.ofTokens (tokenize unicode cs)).refers t.text =
      (refersTo (capturing (tokenize unicode cs)).length (captureNames (tokenize unicode cs))
          t.text ||
        ((decimalReference? t.text).isSome &&
          decide (wordLimit ≤ (capturing (tokenize unicode cs)).length))) := by
  obtain ⟨hhead, -⟩ := escape_of_mem_tokenize ht hk
  obtain ⟨rest, htext⟩ := List.head?_eq_some_iff.1 hhead
  rw [htext]
  cases rest with
  | nil => simp [Captures.refers, refersTo, decimalReference?, backreferenceName?]
  | cons c more =>
      by_cases hc : '1' ≤ c ∧ c ≤ '9'
      · -- a decimal escape: its digits are all digits, and its number meets the saturated count
        have hdigits := digits_of_mem_tokenize ht hk htext hc
        have hmore : more.all Shape.isDigit = true :=
          List.all_eq_true.2 fun x hx => hdigits x (List.mem_cons_of_mem _ hx)
        have hk' : c ≠ 'k' := by
          rintro rfl
          exact absurd hc.2 (by decide)
        rw [Captures.refers_digit _ more hc, refersTo, decimalReference?_digits hc hmore,
          backreferenceName?_eq_none more hk', Captures.total_ofTokens]
        simp only [Option.any_some, Option.any_none, Bool.or_false, Option.isSome_some,
          Bool.true_and]
        rw [Bool.eq_iff_iff]
        simp only [decide_eq_true_eq, Bool.or_eq_true]
        exact min_wordLimit_le_iff
      · -- otherwise only a name can refer, to a name of the prescan
        rw [Captures.refers_not_digit _ more hc, refersTo, decimalReference?_not_digit more hc]
        simp only [Option.any_none, Bool.false_or, Option.isSome_none, Bool.false_and,
          Bool.or_false]
        cases backreferenceName? ('\\' :: c :: more) with
        | none => rfl
        | some name =>
            rw [Option.any_some, Option.any_some, Bool.eq_iff_iff, List.contains_iff_mem,
              List.contains_iff_mem]
            exact Captures.mem_names_ofTokens _ name

/-- Classification marks as backreferences exactly the pieces of the escapes, taken whole, that
refer to a group: `\` and a number from 1 that is at most the number of capturing groups of the
whole pattern, or `\k<name>` with the name of a named group, every opening counted whether it
comes before or after the escape and whether or not it is valid. Once the pattern has
`wordLimit` capturing groups or more, every such number passes. No piece of a class is a
backreference. -/
theorem classify_backreferences (pattern : String) (mode : Mode) (hm : mode.unicodeSets = false) :
    ∃ pieces, classify pattern mode = .ok pieces ∧
      pieces.filter (·.category = .backreference) =
        (withOffsets 0 (tokenize mode.unicodeAware pattern.toList)).filterMap (fun x =>
          if x.2.kind = .escape ∧
              (refersTo (capturing (tokenize mode.unicodeAware pattern.toList)).length
                  (captureNames (tokenize mode.unicodeAware pattern.toList)) x.2.text ||
                ((decimalReference? x.2.text).isSome &&
                  decide (wordLimit ≤
                    (capturing (tokenize mode.unicodeAware pattern.toList)).length))) = true
          then some (Classifier.piece x.1 x.2.text .backreference)
          else none) ∧
      ∀ (unicode : Bool) (pos : Nat) (text : List Char),
        ∀ q ∈ CharClass.pieces unicode pos text, q.category ≠ .backreference := by
  refine ⟨_, classify_eq hm, ?_, ?_⟩
  · rw [Classifier.filter_backreference_ofPattern]
    apply List.filterMap_congr
    intro x hx
    by_cases hk : x.2.kind = .escape
    · rw [Setting.ofPattern, refers_ofTokens (mem_of_mem_withOffsets hx) hk]
    · simp [hk]
  · intro unicode pos text q hq
    exact TokenKind.ne_backreference (by decide) (CharClass.allows_pieces unicode pos text q hq)

theorem classify_backreferences_sample :
    ({} : Mode).unicodeSets = false ∧
    ∃ pieces, classify "(?<n>a)\\1\\2\\k<n>[\\1](" {} = .ok pieces ∧
      pieces.filter (·.category = .backreference) =
        (withOffsets 0 (tokenize false "(?<n>a)\\1\\2\\k<n>[\\1](".toList)).filterMap (fun x =>
          if x.2.kind = .escape ∧
              (refersTo (capturing (tokenize false "(?<n>a)\\1\\2\\k<n>[\\1](".toList)).length
                  (captureNames (tokenize false "(?<n>a)\\1\\2\\k<n>[\\1](".toList)) x.2.text ||
                ((decimalReference? x.2.text).isSome &&
                  decide (wordLimit ≤
                    (capturing (tokenize false "(?<n>a)\\1\\2\\k<n>[\\1](".toList)).length))) = true
          then some (Classifier.piece x.1 x.2.text .backreference)
          else none) ∧
      ∀ (unicode : Bool) (pos : Nat) (text : List Char),
        ∀ q ∈ CharClass.pieces unicode pos text, q.category ≠ .backreference :=
  ⟨rfl, classify_backreferences "(?<n>a)\\1\\2\\k<n>[\\1](" {} rfl⟩

/-! ## A pattern with a full word of groups -/

theorem groupExtent_of_head {cs : List Char} (h : cs.head? ≠ some '?') :
    Shape.groupExtent cs = 0 := by
  unfold Shape.groupExtent
  split
  · simp at h
  · rfl

/-- Openings `(` in a row are tokens of their own. -/
theorem tokenize_replicate_open (unicode : Bool) (n : Nat) {rest : List Char}
    (h : rest.head? ≠ some '?') :
    tokenize unicode (List.replicate n '(' ++ rest) =
      List.replicate n ⟨.groupOpen, ['(']⟩ ++ tokenize unicode rest := by
  induction n with
  | zero => simp
  | succ n ih =>
      have hnext : (List.replicate n '(' ++ rest).head? ≠ some '?' := by
        cases n with
        | zero => simpa using h
        | succ n => simp [List.replicate_succ]
      have hshape : Token.shape unicode '(' (List.replicate n '(' ++ rest) = (.groupOpen, 0) := by
        simp [Token.shape, groupExtent_of_head hnext]
      rw [List.replicate_succ, List.cons_append, tokenize, hshape]
      simp [ih, List.replicate_succ]

/-- The openings before `rest` shift its offsets and add no entry that `f` keeps. -/
theorem filterMap_withOffsets_replicate {β : Type} (f : Nat × Token → Option β) (g : Token)
    (hg : ∀ pos, f (pos, g) = none) (n pos : Nat) (rest : List Token) :
    (withOffsets pos (List.replicate n g ++ rest)).filterMap f =
      (withOffsets (pos + n * utf8Length g.text) rest).filterMap f := by
  induction n generalizing pos with
  | zero => simp
  | succ n ih =>
      rw [List.replicate_succ, List.cons_append, withOffsets, List.filterMap_cons, hg, ih,
        Nat.succ_mul, Nat.add_assoc, Nat.add_comm (utf8Length g.text)]

/-- `\4294967296`: a decimal escape whose number is one past the largest word. -/
def pastWordEscape : List Char := ['\\', '4', '2', '9', '4', '9', '6', '7', '2', '9', '6']

theorem tokenize_pastWordEscape :
    tokenize false pastWordEscape = [⟨.escape, pastWordEscape⟩] := by
  have hext : Shape.escapeExtent false .pattern ['4', '2', '9', '4', '9', '6', '7', '2', '9', '6'] =
      10 := by
    rw [Shape.escapeExtent_decimal false _ (by decide)]
    rfl
  have hshape : Token.shape false '\\' ['4', '2', '9', '4', '9', '6', '7', '2', '9', '6'] =
      (.escape, 10) := by
    rw [Token.shape, if_neg (by decide), if_pos rfl, hext]
  rw [pastWordEscape, tokenize, hshape]
  simp [tokenize]

/-- Openings `(` followed by `\4294967296` lex as one token each. -/
theorem tokenize_replicate_pastWordEscape (n : Nat) :
    tokenize false (List.replicate n '(' ++ pastWordEscape) =
      List.replicate n ⟨.groupOpen, ['(']⟩ ++ [⟨.escape, pastWordEscape⟩] := by
  rw [tokenize_replicate_open false n (by decide), tokenize_pastWordEscape]

theorem capturing_replicate_pastWordEscape (n : Nat) :
    capturing (List.replicate n ⟨.groupOpen, ['(']⟩ ++ [⟨.escape, pastWordEscape⟩]) =
      List.replicate n ⟨.groupOpen, ['(']⟩ := by
  simp [capturing, Opening.isCapturing]

theorem captureNames_replicate_pastWordEscape (n : Nat) :
    captureNames (List.replicate n ⟨.groupOpen, ['(']⟩ ++ [⟨.escape, pastWordEscape⟩]) = [] := by
  rw [captureNames, capturing_replicate_pastWordEscape]
  simp [Opening.captureName?]

/-- Once the count of groups stops at the word, the number of `\4294967296`, stopped there too,
passes it. -/
theorem refers_pastWordEscape {info : Captures} (h : info.total = wordLimit) :
    info.refers pastWordEscape = true := by
  rw [pastWordEscape]
  simp only [Captures.refers]
  rw [if_pos (by decide), h]
  exact decide_eq_true (Nat.min_le_right _ _)

/-- After `n` openings `(`, the escape `\4294967296` is a backreference once `n` reaches
`wordLimit`, since both the count and the number stop there. -/
theorem filter_backreference_past_word (n : Nat) (hn : wordLimit ≤ n) :
    (Classifier.ofPattern {}
        (String.ofList (List.replicate n '(' ++ pastWordEscape))).finish.pieces.toList.filter
      (·.category = .backreference) = [Classifier.piece n pastWordEscape .backreference] := by
  -- the count stops at the word, and the number passes it
  have htotal : (Captures.ofTokens
      (List.replicate n ⟨.groupOpen, ['(']⟩ ++ [⟨.escape, pastWordEscape⟩])).total = wordLimit := by
    rw [Captures.total_ofTokens, capturing_replicate_pastWordEscape, List.length_replicate]
    exact Nat.min_eq_right hn
  have hsize : ('(' : Char).utf8Size = 1 := rfl
  rw [Classifier.filter_backreference_ofPattern]
  simp only [Mode.unicodeAware, Bool.or_self, String.toList_ofList, Setting.ofPattern,
    tokenize_replicate_pastWordEscape]
  rw [filterMap_withOffsets_replicate _ _ (fun _ => by simp) n 0]
  simp [withOffsets, refers_pastWordEscape htotal, hsize]

/-- A pattern of `wordLimit` openings `(` and then `\4294967296` has `wordLimit` capturing groups,
none named, so that the escape refers to no group; yet its piece is a backreference. -/
theorem backreference_beyond_group_count :
    (capturing (tokenize false (List.replicate wordLimit '(' ++ pastWordEscape))).length =
        wordLimit ∧
      refersTo (capturing (tokenize false (List.replicate wordLimit '(' ++ pastWordEscape))).length
          (captureNames (tokenize false (List.replicate wordLimit '(' ++ pastWordEscape)))
          pastWordEscape = false ∧
      ∃ pieces, classify (String.ofList (List.replicate wordLimit '(' ++ pastWordEscape)) {} =
          .ok pieces ∧
        pieces.filter (·.category = .backreference) =
          [Classifier.piece wordLimit pastWordEscape .backreference] := by
  have hcount : (capturing (tokenize false (List.replicate wordLimit '(' ++ pastWordEscape))).length =
      wordLimit := by
    rw [tokenize_replicate_pastWordEscape, capturing_replicate_pastWordEscape,
      List.length_replicate]
  refine ⟨hcount, ?_, _, classify_eq rfl, filter_backreference_past_word wordLimit le_rfl⟩
  rw [hcount, tokenize_replicate_pastWordEscape, captureNames_replicate_pastWordEscape]
  decide

end RegexHighlight
