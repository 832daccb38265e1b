import RegexHighlight.Render.ClassTrack

/-!
# Terminal colours

A classified pattern is written with ANSI escapes: each styled piece is preceded by its
select-graphic-rendition sequence and followed by a reset. Colours are 24-bit where the
terminal supports it; otherwise each colour becomes the nearest of the sixteen basic colours,
by squared distance in RGB, the first in the usual order winning a tie. A reset sequence that
occurs inside a piece's text is followed by the piece's style again, so that the rest of the
piece stays styled.
-/

namespace RegexHighlight.Ansi

/-- A colour as red, green and blue components. -/
structure Rgb where
  r : Nat
  g : Nat
  b : Nat
deriving DecidableEq, Repr

/-- The sixteen basic terminal colours. -/
inductive Basic
  | black | red | green | yellow | blue | magenta | cyan | white
  | brightBlack | brightRed | brightGreen | brightYellow | brightBlue | brightMagenta
  | brightCyan | brightWhite
deriving DecidableEq, Repr

namespace Basic

/-- Every basic colour, in order. -/
def all : List Basic :=
  [.black, .red, .green, .yellow, .blue, .magenta, .cyan, .white, .brightBlack, .brightRed,
   .brightGreen, .brightYellow, .brightBlue, .brightMagenta, .brightCyan, .brightWhite]

/-- The RGB value a basic colour stands for. -/
def rgb : Basic → Rgb
  | .black => ⟨0, 0, 0⟩
  | .red => ⟨205, 0, 0⟩
  | .green => ⟨0, 205, 0⟩
  | .yellow => ⟨205, 205, 0⟩
  | .blue => ⟨0, 0, 238⟩
  | .magenta => ⟨205, 0, 205⟩
  | .cyan => ⟨0, 205, 205⟩
  | .white => ⟨229, 229, 229⟩
  | .brightBlack => ⟨127, 127, 127⟩
  | .brightRed => ⟨255, 0, 0⟩
  | .brightGreen => ⟨0, 255, 0⟩
  | .brightYellow => ⟨255, 255, 0⟩
  | .brightBlue => ⟨92, 92, 255⟩
  | .brightMagenta => ⟨255, 0, 255⟩
  | .brightCyan => ⟨0, 255, 255⟩
  | .brightWhite => ⟨255, 255, 255⟩

/-- The foreground code of a basic colour. -/
def foreground : Basic → Nat
  | .black => 30 | .red => 31 | .green => 32 | .yellow => 33
  | .blue => 34 | .magenta => 35 | .cyan => 36 | .white => 37
  | .brightBlack => 90 | .brightRed => 91 | .brightGreen => 92 | .brightYellow => 93
  | .brightBlue => 94 | .brightMagenta => 95 | .brightCyan => 96 | .brightWhite => 97

end Basic

/-- The squared distance between two colours. -/
def distance (x y : Rgb) : Nat :=
  let d := fun (a b : Nat) => (max a b - min a b) * (max a b - min a b)
  d x.r y.r + d x.g y.g + d x.b y.b

/-- The basic colour nearest to `c`; the first of several nearest ones wins. -/
def nearest (c : Rgb) : Basic :=
  Basic.all.foldl (fun best k => if distance c k.rgb < distance c best.rgb then k else best) .black

/-- How colours are written. -/
inductive Depth
  /-- As 24-bit values. -/
  | trueColor
  /-- As the nearest basic colour. -/
  | basic
deriving DecidableEq, Repr

/-- The rendition parameter of a foreground colour. -/
def foreground (depth : Depth) (c : Rgb) : String :=
  match depth with
  | .trueColor => s!"38;2;{c.r};{c.g};{c.b}"
  | .basic => toString (nearest c).foreground

/-- The rendition parameter of a background colour. -/
def background (depth : Depth) (c : Rgb) : String :=
  match depth with
  | .trueColor => s!"48;2;{c.r};{c.g};{c.b}"
  | .basic => toString ((nearest c).foreground + 10)

/-- A piece's look: foreground, background and whether it is italic. -/
structure Style where
  fg : Rgb
  bg : Rgb
  italic : Bool
deriving DecidableEq, Repr

/-- The reset sequence. -/
def reset : String := "\x1b[0m"

/-- Writes `text` after the sequence `sgr`, then a reset; a reset inside the text is followed
by `sgr` again. -/
def paintWith (sgr text : String) : String :=
  sgr ++ text.replace reset (reset ++ sgr) ++ reset

/-- Writes `text` in a style. -/
def paint (depth : Depth) (s : Style) (text : String) : String :=
  let params := (if s.italic then "3;" else "") ++ background depth s.bg ++ ";" ++ foreground depth s.fg
  paintWith ("\x1b[" ++ params ++ "m") text

/-- Writes `text` in red. -/
def red (text : String) : String := paintWith "\x1b[31m" text

/-- The palette of the renderer. -/
def black : Rgb := ⟨0x00, 0x00, 0x00⟩
def white : Rgb := ⟨0xff, 0xff, 0xff⟩
def metaFg : Rgb := ⟨0x09, 0x2e, 0x7f⟩
def metaBg : Rgb := ⟨0x80, 0xc0, 0xff⟩
def brefFg : Rgb := ⟨0x0d, 0x47, 0xc4⟩
def brefBg : Rgb := ⟨0x86, 0xe9, 0xff⟩
def errorBg : Rgb := ⟨0xe3, 0x00, 0x00⟩
def escapedBg : Rgb := ⟨0xf0, 0xf0, 0xf0⟩
def classBg : Rgb := ⟨0xe3, 0xe3, 0xe3⟩
def classTokenBg : Rgb := ⟨0xc3, 0xc3, 0xc3⟩
def rangeBg : Rgb := ⟨0xd3, 0xd3, 0xd3⟩

/-- Group styles by depth, each with a foreground that reads on it. -/
def groupStyle (depth : Nat) : Style :=
  match (max 1 (min depth 5)) with
  | 1 => ⟨black, ⟨0xb4, 0xfa, 0x50⟩, false⟩
  | 2 => ⟨black, ⟨0x8c, 0xd4, 0x00⟩, false⟩
  | 3 => ⟨white, ⟨0x26, 0xb8, 0x09⟩, false⟩
  | 4 => ⟨black, ⟨0x30, 0xea, 0x60⟩, false⟩
  | _ => ⟨white, ⟨0x0c, 0x8d, 0x15⟩, false⟩

/-- The style of a piece, or `none` when it is written as is. -/
def styleOf (category : Category) (position : ClassPosition) : Option Style :=
  let inClass := position != .outside
  match category with
  | .literal => none
  | .classBody => some ⟨black, classBg, true⟩
  | .classBoundary => some ⟨black, classTokenBg, false⟩
  | .escapedLiteral => some ⟨black, if inClass then classTokenBg else escapedBg, false⟩
  | .metasequence =>
    if inClass then some ⟨metaFg, classTokenBg, true⟩ else some ⟨metaFg, metaBg, false⟩
  | .quantifier 0 | .alternator 0 => some ⟨metaFg, metaBg, false⟩
  | .group d | .quantifier d | .alternator d => some (groupStyle d)
  | .backreference => some ⟨brefFg, brefBg, false⟩
  | .rangeHyphen => some ⟨black, rangeBg, true⟩
  | .error _ => some ⟨white, errorBg, false⟩

/-- Writes a classified pattern with colours, or as plain text when `colors` is `none`. -/
def render (colors : Option Depth) (pieces : List Piece) : String :=
  let (positions, _) := ClassPosition.track (pieces.map Piece.category)
  String.join ((pieces.zip positions).map fun (p, pos) =>
    match colors, styleOf p.category pos with
    | some depth, some style => paint depth style p.text
    | _, _ => p.text)

end RegexHighlight.Ansi
