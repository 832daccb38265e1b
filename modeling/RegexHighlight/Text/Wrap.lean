
/-!
# Wrapping text into lines

A paragraph is wrapped first-fit: words are placed on the current line while they fit, and a
word that does not fit starts the next line. Words are separated by ASCII spaces, and a word
may also be broken after a hyphen that stands between two letters or digits (`well-` and
`known`), so that the hyphen ends the line. A word wider than a whole line is cut into
pieces that fit. Every line starts with an indent, which counts toward the width.

Widths are guessed without tables of character widths: a character below U+1100, where the
scripts whose letters are all narrow end, takes one column, and any other takes two.
-/

namespace RegexHighlight.Text

/-- The columns a character is taken to fill when text is wrapped. -/
def wrapWidth (c : Char) : Nat := if c.toNat < 0x1100 then 1 else 2

/-- The columns a text is taken to fill when it is wrapped. -/
def textWidth (s : String) : Nat := s.toList.foldl (fun n c => n + wrapWidth c) 0

/-- A word of a paragraph: its text, the spaces after it, what is added when a line breaks
after it, and its width in columns. -/
structure Word where
  text : List Char
  space : List Char
  penalty : List Char
deriving DecidableEq, Repr

namespace Word

/-- The columns a word takes. -/
def width (w : Word) : Nat := textWidth (String.ofList w.text)

/-- A word from a piece of text with its trailing spaces. -/
def ofSegment (seg : List Char) : Word :=
  let text := (seg.reverse.dropWhile (· = ' ')).reverse
  ⟨text, seg.drop text.length, []⟩

end Word

/-- Cuts a line into segments, each a run of other characters followed by its spaces. -/
def segments (cs : List Char) : List (List Char) :=
  let rec go (cur : List Char) (inSpace : Bool) : List Char → List (List Char)
    | [] => if cur.isEmpty then [] else [cur.reverse]
    | c :: rest =>
      if inSpace && c ≠ ' ' then cur.reverse :: go [c] false rest
      else go (c :: cur) (c = ' ') rest
  go [] false cs

/-- The positions inside a word after which it may break: after a hyphen between two letters
or digits. -/
def hyphenBreaks (w : List Char) : List Nat :=
  let breaksAfter := fun i =>
    w[i]? = some '-' && i > 0 && (w[i - 1]?.map Char.isAlphanum).getD false &&
      (w[i + 1]?.map Char.isAlphanum).getD false
  ((List.range w.length).filter breaksAfter).map (· + 1)

/-- Splits a word at its hyphen breaks. -/
def splitWord (w : Word) : List Word :=
  let cuts := hyphenBreaks w.text
  let bounds := (0 :: cuts).zip (cuts ++ [w.text.length])
  let pieces := bounds.map fun (a, b) => (w.text.drop a).take (b - a)
  match pieces.reverse with
  | [] => [w]
  | last :: earlier =>
    (earlier.reverse.map fun p =>
      ({ text := p, space := [], penalty := if p.getLast? = some '-' then [] else ['-'] } : Word))
      ++ [{ w with text := last }]

/-- Cuts a word wider than `width` columns into pieces that fit. -/
def breakApart (width : Nat) (w : Word) : List Word :=
  if w.width ≤ width || width = 0 then [w]
  else
    let rec go (fuel : Nat) (cs : List Char) : List (List Char) :=
      match fuel with
      | 0 => [cs]
      | fuel + 1 =>
        if textWidth (String.ofList cs) ≤ width then [cs]
        else
          let n := max 1 (((List.range (cs.length + 1)).filter fun k =>
            textWidth (String.ofList (cs.take k)) ≤ width).getLast?.getD 1)
          cs.take n :: go fuel (cs.drop n)
    match (go w.text.length w.text).reverse with
    | [] => [w]
    | last :: earlier =>
      (earlier.reverse.map fun p => ({ text := p, space := [], penalty := [] } : Word)) ++
        [{ w with text := last }]

/-- Places words on lines first-fit; each line holds at least one word. -/
def firstFit (width : Nat) (words : List Word) : List (List Word) :=
  let step := fun (acc : List (List Word) × List Word × Nat) (w : Word) =>
    let (done, cur, used) := acc
    if used + w.width + textWidth (String.ofList w.penalty) > width && !cur.isEmpty then
      (done ++ [cur], [w], w.width + w.space.length)
    else (done, cur ++ [w], used + w.width + w.space.length)
  let (done, cur, _) := words.foldl step ([], [], 0)
  done ++ [cur]

/-- The text of one wrapped line: its words with the spaces between them, and the penalty of
the last word. -/
def lineText (ws : List Word) : List Char :=
  match ws.reverse with
  | [] => []
  | last :: earlier =>
    (earlier.reverse.flatMap fun w => w.text ++ w.space) ++ last.text ++ last.penalty

/-- Wraps a line of text to `width` columns, starting every line with `indent`. -/
def wrap (width : Nat) (indent : String) (line : String) : List String :=
  let room := width - textWidth indent
  let words := (segments line.toList).map Word.ofSegment
  let words := (words.flatMap splitWord).flatMap (breakApart room)
  let words := (if indent.isEmpty then words else ⟨[], [], []⟩ :: words)
  (firstFit room words).map fun ws => indent ++ String.ofList (lineText ws)

end RegexHighlight.Text
