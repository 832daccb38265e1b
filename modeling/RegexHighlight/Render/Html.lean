import RegexHighlight.Render.ClassTrack

/-!
# HTML markup

A classified pattern is written as HTML: `&` and `<` are escaped, literal text and class bodies
stay plain, escaped literals and class boundaries go in `<span>`, metasequences and depth-0
quantifiers and alternators in `<b>`, groups and the quantifiers and alternators that belong to
them in `<b class="gN">`, backreferences in `<b class="bref">`, range hyphens in `<u>`, and
diagnostics in `<b class="err">` with the diagnostic's message as the title. Each character
class, from its opening to its closing or to the end, is wrapped in `<i>`, and line breaks
(`\r\n` or `\n`) become `<br>`.
-/

namespace RegexHighlight.Html

/-- How `escape` writes one character: `&` and `<` as entities, any other as itself. -/
def escapeChar : Char → List Char
  | '&' => "&amp;".toList
  | '<' => "&lt;".toList
  | c => [c]

/-- Escapes `&` and `<`. -/
def escape (s : String) : String :=
  String.ofList (s.toList.flatMap escapeChar)

/-- An attribute value: escaped, and with `"` written `&quot;`. -/
def attributeValue (s : String) : String :=
  String.ofList ((escape s).toList.flatMap fun c => if c = '"' then "&quot;".toList else [c])

/-- Writes each line break, `\r\n` or a lone `\n`, as `<br>`. -/
def breakLines : List Char → List Char
  | [] => []
  | '\r' :: '\n' :: cs => "<br>".toList ++ breakLines cs
  | '\n' :: cs => "<br>".toList ++ breakLines cs
  | c :: cs => c :: breakLines cs

/-- The tag and attributes a category is wrapped in, or `none` for plain text. -/
def tagOf : Category → Option (String × String)
  | .literal | .classBody => none
  | .escapedLiteral | .classBoundary => some ("span", "")
  | .metasequence | .quantifier 0 | .alternator 0 => some ("b", "")
  | .group d | .quantifier d | .alternator d => some ("b", s!" class=\"g{d}\"")
  | .backreference => some ("b", " class=\"bref\"")
  | .rangeHyphen => some ("u", "")
  | .error diag =>
    some ("b", " class=\"err\" title=\"" ++ attributeValue diag.message ++ "\"")

/-- The markup of one piece. -/
def pieceMarkup (p : Piece) : String :=
  match tagOf p.category with
  | none => escape p.text
  | some (tag, attrs) => "<" ++ tag ++ attrs ++ ">" ++ escape p.text ++ "</" ++ tag ++ ">"

/-- The markup of a classified pattern. -/
def render (pieces : List Piece) : String :=
  let (positions, inside) := ClassPosition.track (pieces.map Piece.category)
  let body := String.join ((pieces.zip positions).map fun (p, pos) =>
    (if pos = .opening then "<i>" else "") ++ pieceMarkup p ++ (if pos = .closing then "</i>" else ""))
  let body := if inside then body ++ "</i>" else body
  String.ofList (breakLines body.toList)

/-- The default styles, for markup inside an element of class `regex`. -/
def stylesheet : String :=
  ".regex \x7bcolor: #000; font-family: Consolas, \"Source Code Pro\", Monospace;\x7d\n" ++
  ".regex b \x7bfont-weight: normal;\x7d\n" ++
  ".regex i \x7bfont-style: normal;\x7d\n" ++
  ".regex u \x7btext-decoration: none;\x7d\n" ++
  ".regex * \x7bborder-radius: 0.25em;\x7d\n" ++
  ".regex span \x7bbackground: #f0f0f0;\x7d\n" ++
  ".regex b \x7bbackground: #80c0ff; color: #092e7f;\x7d\n" ++
  ".regex b.bref \x7bbackground: #86e9ff; color: #0d47c4;\x7d\n" ++
  ".regex b.err \x7bbackground: #e30000; color: #fff;\x7d\n" ++
  ".regex i \x7bbackground: #e3e3e3; font-style: italic;\x7d\n" ++
  ".regex i span \x7bbackground: #c3c3c3; font-style: normal;\x7d\n" ++
  ".regex i b \x7bbackground: #c3c3c3;\x7d\n" ++
  ".regex i u \x7bbackground: #d3d3d3;\x7d\n" ++
  ".regex b.g1 \x7bbackground: #b4fa50;\x7d\n" ++
  ".regex b.g2 \x7bbackground: #8cd400;\x7d\n" ++
  ".regex b.g3 \x7bbackground: #26b809; color: #fff;\x7d\n" ++
  ".regex b.g4 \x7bbackground: #30ea60;\x7d\n" ++
  ".regex b.g5 \x7bbackground: #0c8d15; color: #fff;\x7d\n"

end RegexHighlight.Html
