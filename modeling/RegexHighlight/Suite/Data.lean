/-!
# The repository's tests

The classification tests that come with the tool, grouped by what they exercise, as the TOML
text they are written in, line by line.
-/

namespace RegexHighlight.Suite.Data

/-- The tests of the `alternation` group. -/
def alternationData : String :=
  String.join ([
    "[[test]]",
    "name = \"simple\"",
    "pattern = \"a|b\"",
    "spans = [",
    "  [\"literal\", \"a\"],",
    "  [\"alternator-0\", \"|\"],",
    "  [\"literal\", \"b\"],",
    "]",
    "",
    "[[test]]",
    "name = \"leading\"",
    "pattern = \"|a\"",
    "spans = [",
    "  [\"error:empty-alternative\", \"|\"],",
    "  [\"literal\", \"a\"],",
    "]",
    "",
    "[[test]]",
    "name = \"doubled\"",
    "pattern = \"a||b\"",
    "spans = [",
    "  [\"literal\", \"a\"],",
    "  [\"alternator-0\", \"|\"],",
    "  [\"error:empty-alternative\", \"|\"],",
    "  [\"literal\", \"b\"],",
    "]",
    "",
    "[[test]]",
    "name = \"doubled-in-group\"",
    "pattern = \"(a||b)\"",
    "spans = [",
    "  [\"group-1\", \"(\"],",
    "  [\"literal\", \"a\"],",
    "  [\"alternator-1\", \"|\"],",
    "  [\"error:empty-alternative\", \"|\"],",
    "  [\"literal\", \"b\"],",
    "  [\"group-1\", \")\"],",
    "]",
    "",
    "[[test]]",
    "name = \"leading-in-group\"",
    "pattern = \"(|a)\"",
    "spans = [",
    "  [\"group-1\", \"(\"],",
    "  [\"alternator-1\", \"|\"],",
    "  [\"literal\", \"a\"],",
    "  [\"group-1\", \")\"],",
    "]",
    "",
    "[[test]]",
    "name = \"trailing-in-group\"",
    "pattern = \"(a|)\"",
    "spans = [",
    "  [\"group-1\", \"(\"],",
    "  [\"literal\", \"a\"],",
    "  [\"alternator-1\", \"|\"],",
    "  [\"group-1\", \")\"],",
    "]",
    "",
    "[[test]]",
    "name = \"trailing\"",
    "pattern = \"a|\"",
    "spans = [",
    "  [\"literal\", \"a\"],",
    "  [\"alternator-0\", \"|\"],",
    "]",
    "",
    "[[test]]",
    "name = \"nested-style\"",
    "pattern = \"((a|b)|c)\"",
    "spans = [",
    "  [\"group-1\", \"(\"],",
    "  [\"group-2\", \"(\"],",
    "  [\"literal\", \"a\"],",
    "  [\"alternator-2\", \"|\"],",
    "  [\"literal\", \"b\"],",
    "  [\"group-2\", \")\"],",
    "  [\"alternator-1\", \"|\"],",
    "  [\"literal\", \"c\"],",
    "  [\"group-1\", \")\"],",
    "]",
    "",
    "[[test]]",
    "name = \"after-group\"",
    "pattern = \"(a)|b\"",
    "spans = [",
    "  [\"group-1\", \"(\"],",
    "  [\"literal\", \"a\"],",
    "  [\"group-1\", \")\"],",
    "  [\"alternator-0\", \"|\"],",
    "  [\"literal\", \"b\"],",
    "]",
    "",
    "[[test]]",
    "name = \"in-class\"",
    "pattern = \"[|]\"",
    "spans = [",
    "  [\"class-boundary\", \"[\"],",
    "  [\"class-body\", \"|\"],",
    "  [\"class-boundary\", \"]\"],",
    "]"].map (· ++ "\n"))

/-- The tests of the `backreferences` group. -/
def backreferencesData : String :=
  String.join ([
    "# Numbered and named backreferences. Without the \x27u\x27 flag, numbers that do",
    "# not resolve are reinterpreted as octal escapes.",
    "",
    "[[test]]",
    "name = \"resolves\"",
    "pattern = \x27(a)(b)\\2\x27",
    "spans = [",
    "  [\"group-1\", \"(\"],",
    "  [\"literal\", \"a\"],",
    "  [\"group-1\", \")\"],",
    "  [\"group-1\", \"(\"],",
    "  [\"literal\", \"b\"],",
    "  [\"group-1\", \")\"],",
    "  [\"backreference\", \x27\\2\x27],",
    "]",
    "",
    "[[test]]",
    "name = \"forward\"",
    "pattern = \x27\\1(a)\x27",
    "spans = [",
    "  [\"backreference\", \x27\\1\x27],",
    "  [\"group-1\", \"(\"],",
    "  [\"literal\", \"a\"],",
    "  [\"group-1\", \")\"],",
    "]",
    "",
    "[[test]]",
    "name = \"too-large-is-octal\"",
    "pattern = \x27(a)\\2\x27",
    "spans = [",
    "  [\"group-1\", \"(\"],",
    "  [\"literal\", \"a\"],",
    "  [\"group-1\", \")\"],",
    "  [\"metasequence\", \x27\\2\x27],",
    "]",
    "",
    "[[test]]",
    "name = \"too-large-is-octal-unicode\"",
    "pattern = \x27(a)\\2\x27",
    "flags = \"u\"",
    "spans = [",
    "  [\"group-1\", \"(\"],",
    "  [\"literal\", \"a\"],",
    "  [\"group-1\", \")\"],",
    "  [\"error:invalid-backreference\", \x27\\2\x27],",
    "]",
    "",
    "[[test]]",
    "name = \"octal-prefix\"",
    "pattern = \x27(a)\\18\x27",
    "spans = [",
    "  [\"group-1\", \"(\"],",
    "  [\"literal\", \"a\"],",
    "  [\"group-1\", \")\"],",
    "  [\"metasequence\", \x27\\1\x27],",
    "  [\"literal\", \"8\"],",
    "]",
    "",
    "[[test]]",
    "name = \"octal-max\"",
    "pattern = \x27\\3777\x27",
    "spans = [",
    "  [\"metasequence\", \x27\\377\x27],",
    "  [\"literal\", \"7\"],",
    "]",
    "",
    "[[test]]",
    "name = \"non-octal-digit\"",
    "pattern = \x27\\89\x27",
    "spans = [",
    "  [\"escaped-literal\", \x27\\8\x27],",
    "  [\"literal\", \"9\"],",
    "]",
    "",
    "[[test]]",
    "name = \"multi-digit\"",
    "pattern = \x27(a)(a)(a)(a)(a)(a)(a)(a)(a)(a)\\10\x27",
    "spans = [",
    "  [\"group-1\", \"(\"], [\"literal\", \"a\"], [\"group-1\", \")\"],",
    "  [\"group-1\", \"(\"], [\"literal\", \"a\"], [\"group-1\", \")\"],",
    "  [\"group-1\", \"(\"], [\"literal\", \"a\"], [\"group-1\", \")\"],",
    "  [\"group-1\", \"(\"], [\"literal\", \"a\"], [\"group-1\", \")\"],",
    "  [\"group-1\", \"(\"], [\"literal\", \"a\"], [\"group-1\", \")\"],",
    "  [\"group-1\", \"(\"], [\"literal\", \"a\"], [\"group-1\", \")\"],",
    "  [\"group-1\", \"(\"], [\"literal\", \"a\"], [\"group-1\", \")\"],",
    "  [\"group-1\", \"(\"], [\"literal\", \"a\"], [\"group-1\", \")\"],",
    "  [\"group-1\", \"(\"], [\"literal\", \"a\"], [\"group-1\", \")\"],",
    "  [\"group-1\", \"(\"], [\"literal\", \"a\"], [\"group-1\", \")\"],",
    "  [\"backreference\", \x27\\10\x27],",
    "]",
    "",
    "[[test]]",
    "name = \"non-capturing-groups-do-not-count\"",
    "pattern = \x27(?:a)\\1\x27",
    "spans = [",
    "  [\"group-1\", \"(?:\"],",
    "  [\"literal\", \"a\"],",
    "  [\"group-1\", \")\"],",
    "  [\"metasequence\", \x27\\1\x27],",
    "]",
    "",
    "[[test]]",
    "name = \"named\"",
    "pattern = \x27(?<n>a)\\k<n>\x27",
    "spans = [",
    "  [\"group-1\", \"(?<n>\"],",
    "  [\"literal\", \"a\"],",
    "  [\"group-1\", \")\"],",
    "  [\"backreference\", \x27\\k<n>\x27],",
    "]",
    "",
    "[[test]]",
    "name = \"named-forward\"",
    "pattern = \x27\\k<n>(?<n>a)\x27",
    "spans = [",
    "  [\"backreference\", \x27\\k<n>\x27],",
    "  [\"group-1\", \"(?<n>\"],",
    "  [\"literal\", \"a\"],",
    "  [\"group-1\", \")\"],",
    "]",
    "",
    "[[test]]",
    "name = \"named-unknown\"",
    "pattern = \x27(?<n>a)\\k<m>\x27",
    "spans = [",
    "  [\"group-1\", \"(?<n>\"],",
    "  [\"literal\", \"a\"],",
    "  [\"group-1\", \")\"],",
    "  [\"error:invalid-backreference\", \x27\\k<m>\x27],",
    "]",
    "",
    "[[test]]",
    "name = \"named-incomplete\"",
    "pattern = \x27(?<n>a)\\k<n\x27",
    "spans = [",
    "  [\"group-1\", \"(?<n>\"],",
    "  [\"literal\", \"a\"],",
    "  [\"group-1\", \")\"],",
    "  [\"error:incomplete-token\", \x27\\k\x27],",
    "  [\"literal\", \"<n\"],",
    "]",
    "",
    "[[test]]",
    "name = \"named-without-named-groups\"",
    "pattern = \x27(a)\\k<n>\x27",
    "spans = [",
    "  [\"group-1\", \"(\"],",
    "  [\"literal\", \"a\"],",
    "  [\"group-1\", \")\"],",
    "  [\"escaped-literal\", \x27\\k\x27],",
    "  [\"literal\", \"<n>\"],",
    "]",
    "",
    "[[test]]",
    "name = \"named-without-named-groups-unicode\"",
    "pattern = \x27(a)\\k<n>\x27",
    "flags = \"u\"",
    "spans = [",
    "  [\"group-1\", \"(\"],",
    "  [\"literal\", \"a\"],",
    "  [\"group-1\", \")\"],",
    "  [\"error:invalid-backreference\", \x27\\k<n>\x27],",
    "]",
    "",
    "[[test]]",
    "name = \"quantified\"",
    "pattern = \x27(a)\\1+\x27",
    "spans = [",
    "  [\"group-1\", \"(\"],",
    "  [\"literal\", \"a\"],",
    "  [\"group-1\", \")\"],",
    "  [\"backreference\", \x27\\1\x27],",
    "  [\"quantifier-0\", \"+\"],",
    "]"].map (· ++ "\n"))

/-- The tests of the `classes` group. -/
def classesData : String :=
  String.join ([
    "[[test]]",
    "name = \"simple\"",
    "pattern = \"[abc]\"",
    "spans = [",
    "  [\"class-boundary\", \"[\"],",
    "  [\"class-body\", \"abc\"],",
    "  [\"class-boundary\", \"]\"],",
    "]",
    "",
    "[[test]]",
    "name = \"negated\"",
    "pattern = \"[^abc]\"",
    "spans = [",
    "  [\"class-boundary\", \"[^\"],",
    "  [\"class-body\", \"abc\"],",
    "  [\"class-boundary\", \"]\"],",
    "]",
    "",
    "[[test]]",
    "name = \"empty\"",
    "pattern = \"[]\"",
    "spans = [",
    "  [\"class-boundary\", \"[\"],",
    "  [\"class-boundary\", \"]\"],",
    "]",
    "",
    "[[test]]",
    "name = \"range\"",
    "pattern = \"[a-z]\"",
    "spans = [",
    "  [\"class-boundary\", \"[\"],",
    "  [\"class-body\", \"a\"],",
    "  [\"range-hyphen\", \"-\"],",
    "  [\"class-body\", \"z\"],",
    "  [\"class-boundary\", \"]\"],",
    "]",
    "",
    "[[test]]",
    "name = \"range-reversed\"",
    "pattern = \"[z-a]\"",
    "spans = [",
    "  [\"class-boundary\", \"[\"],",
    "  [\"class-body\", \"z\"],",
    "  [\"error:invalid-range\", \"-\"],",
    "  [\"class-body\", \"a\"],",
    "  [\"class-boundary\", \"]\"],",
    "]",
    "",
    "[[test]]",
    "name = \"range-shorthand-start\"",
    "pattern = \x27[\\d-z]\x27",
    "spans = [",
    "  [\"class-boundary\", \"[\"],",
    "  [\"metasequence\", \x27\\d\x27],",
    "  [\"error:invalid-range\", \"-\"],",
    "  [\"class-body\", \"z\"],",
    "  [\"class-boundary\", \"]\"],",
    "]",
    "",
    "[[test]]",
    "name = \"range-shorthand-end\"",
    "pattern = \x27[a-\\w]\x27",
    "spans = [",
    "  [\"class-boundary\", \"[\"],",
    "  [\"class-body\", \"a\"],",
    "  [\"error:invalid-range\", \"-\"],",
    "  [\"metasequence\", \x27\\w\x27],",
    "  [\"class-boundary\", \"]\"],",
    "]",
    "",
    "[[test]]",
    "name = \"several-ranges\"",
    "pattern = \"[0-9A-Fa-f]\"",
    "spans = [",
    "  [\"class-boundary\", \"[\"],",
    "  [\"class-body\", \"0\"],",
    "  [\"range-hyphen\", \"-\"],",
    "  [\"class-body\", \"9A\"],",
    "  [\"range-hyphen\", \"-\"],",
    "  [\"class-body\", \"Fa\"],",
    "  [\"range-hyphen\", \"-\"],",
    "  [\"class-body\", \"f\"],",
    "  [\"class-boundary\", \"]\"],",
    "]",
    "",
    "[[test]]",
    "name = \"escaped-endpoints\"",
    "pattern = \x27[\\x00-\\x1F\\cA-\\cZ\\t-\\r]\x27",
    "spans = [",
    "  [\"class-boundary\", \"[\"],",
    "  [\"metasequence\", \x27\\x00\x27],",
    "  [\"range-hyphen\", \"-\"],",
    "  [\"metasequence\", \x27\\x1F\x27],",
    "  [\"metasequence\", \x27\\cA\x27],",
    "  [\"range-hyphen\", \"-\"],",
    "  [\"metasequence\", \x27\\cZ\x27],",
    "  [\"metasequence\", \x27\\t\x27],",
    "  [\"range-hyphen\", \"-\"],",
    "  [\"metasequence\", \x27\\r\x27],",
    "  [\"class-boundary\", \"]\"],",
    "]",
    "",
    "[[test]]",
    "name = \"escaped-endpoints-reversed\"",
    "pattern = \x27[\\x41-\\x40]\x27",
    "spans = [",
    "  [\"class-boundary\", \"[\"],",
    "  [\"metasequence\", \x27\\x41\x27],",
    "  [\"error:invalid-range\", \"-\"],",
    "  [\"metasequence\", \x27\\x40\x27],",
    "  [\"class-boundary\", \"]\"],",
    "]",
    "",
    "[[test]]",
    "name = \"hyphen-first\"",
    "pattern = \"[-a]\"",
    "spans = [",
    "  [\"class-boundary\", \"[\"],",
    "  [\"class-body\", \"-\"],",
    "  [\"class-body\", \"a\"],",
    "  [\"class-boundary\", \"]\"],",
    "]",
    "",
    "[[test]]",
    "name = \"hyphen-last\"",
    "pattern = \"[a-]\"",
    "spans = [",
    "  [\"class-boundary\", \"[\"],",
    "  [\"class-body\", \"a\"],",
    "  [\"class-body\", \"-\"],",
    "  [\"class-boundary\", \"]\"],",
    "]",
    "",
    "[[test]]",
    "name = \"hyphen-after-range\"",
    "pattern = \"[a-c-e]\"",
    "spans = [",
    "  [\"class-boundary\", \"[\"],",
    "  [\"class-body\", \"a\"],",
    "  [\"range-hyphen\", \"-\"],",
    "  [\"class-body\", \"c\"],",
    "  [\"class-body\", \"-\"],",
    "  [\"class-body\", \"e\"],",
    "  [\"class-boundary\", \"]\"],",
    "]",
    "",
    "[[test]]",
    "name = \"escaped-hyphen\"",
    "pattern = \x27[a\\-z]\x27",
    "spans = [",
    "  [\"class-boundary\", \"[\"],",
    "  [\"class-body\", \"a\"],",
    "  [\"metasequence\", \x27\\-\x27],",
    "  [\"class-body\", \"z\"],",
    "  [\"class-boundary\", \"]\"],",
    "]",
    "",
    "[[test]]",
    "name = \"escaped-closer\"",
    "pattern = \x27[\\]]\x27",
    "spans = [",
    "  [\"class-boundary\", \"[\"],",
    "  [\"metasequence\", \x27\\]\x27],",
    "  [\"class-boundary\", \"]\"],",
    "]",
    "",
    "[[test]]",
    "name = \"unclosed\"",
    "pattern = \"[a-z\"",
    "spans = [",
    "  [\"error:unclosed-class\", \"[\"],",
    "  [\"class-body\", \"a\"],",
    "  [\"range-hyphen\", \"-\"],",
    "  [\"class-body\", \"z\"],",
    "]",
    "",
    "[[test]]",
    "name = \"unclosed-trailing-hyphen\"",
    "pattern = \"[a-\"",
    "spans = [",
    "  [\"error:unclosed-class\", \"[\"],",
    "  [\"class-body\", \"a\"],",
    "  [\"class-body\", \"-\"],",
    "]",
    "",
    "[[test]]",
    "name = \"unclosed-escaped-closer\"",
    "pattern = \x27[\\]\x27",
    "spans = [",
    "  [\"error:unclosed-class\", \"[\"],",
    "  [\"metasequence\", \x27\\]\x27],",
    "]",
    "",
    "[[test]]",
    "name = \"specials-are-literal\"",
    "pattern = \"[.*+?^$\x7b\x7d()|/]\"",
    "spans = [",
    "  [\"class-boundary\", \"[\"],",
    "  [\"class-body\", \".*+?^$\x7b\x7d()|/\"],",
    "  [\"class-boundary\", \"]\"],",
    "]",
    "",
    "[[test]]",
    "name = \"incomplete-escapes\"",
    "pattern = \x27[\\c\\x\\u]\x27",
    "spans = [",
    "  [\"class-boundary\", \"[\"],",
    "  [\"error:incomplete-token\", \x27\\c\x27],",
    "  [\"error:incomplete-token\", \x27\\x\x27],",
    "  [\"error:incomplete-token\", \x27\\u\x27],",
    "  [\"class-boundary\", \"]\"],",
    "]",
    "",
    "[[test]]",
    "name = \"octal-and-backspace\"",
    "pattern = \x27[\\b\\1\\8\\377]\x27",
    "spans = [",
    "  [\"class-boundary\", \"[\"],",
    "  [\"metasequence\", \x27\\b\x27],",
    "  [\"metasequence\", \x27\\1\x27],",
    "  [\"metasequence\", \x27\\8\x27],",
    "  [\"metasequence\", \x27\\377\x27],",
    "  [\"class-boundary\", \"]\"],",
    "]"].map (· ++ "\n"))

/-- The tests of the `escapes` group. -/
def escapesData : String :=
  String.join ([
    "# Escapes outside of character classes, without the \x27u\x27 flag.",
    "",
    "[[test]]",
    "name = \"shorthands\"",
    "pattern = \x27\\d\\D\\s\\S\\w\\W\x27",
    "spans = [",
    "  [\"metasequence\", \x27\\d\x27],",
    "  [\"metasequence\", \x27\\D\x27],",
    "  [\"metasequence\", \x27\\s\x27],",
    "  [\"metasequence\", \x27\\S\x27],",
    "  [\"metasequence\", \x27\\w\x27],",
    "  [\"metasequence\", \x27\\W\x27],",
    "]",
    "",
    "[[test]]",
    "name = \"control-chars\"",
    "pattern = \x27\\f\\n\\r\\t\\v\\0\x27",
    "spans = [",
    "  [\"metasequence\", \x27\\f\x27],",
    "  [\"metasequence\", \x27\\n\x27],",
    "  [\"metasequence\", \x27\\r\x27],",
    "  [\"metasequence\", \x27\\t\x27],",
    "  [\"metasequence\", \x27\\v\x27],",
    "  [\"metasequence\", \x27\\0\x27],",
    "]",
    "",
    "[[test]]",
    "name = \"code-points\"",
    "pattern = \x27\\cJ\\x7Fé\x27",
    "spans = [",
    "  [\"metasequence\", \x27\\cJ\x27],",
    "  [\"metasequence\", \x27\\x7F\x27],",
    "  [\"literal\", \x27é\x27],",
    "]",
    "",
    "[[test]]",
    "name = \"octal\"",
    "pattern = \x27\\012\\08\x27",
    "spans = [",
    "  [\"metasequence\", \x27\\012\x27],",
    "  [\"metasequence\", \x27\\0\x27],",
    "  [\"literal\", \"8\"],",
    "]",
    "",
    "[[test]]",
    "name = \"escaped-literals\"",
    "pattern = \x27\\.\\*\\/\\-\\a\\☃\x27",
    "spans = [",
    "  [\"escaped-literal\", \x27\\.\x27],",
    "  [\"escaped-literal\", \x27\\*\x27],",
    "  [\"escaped-literal\", \x27\\/\x27],",
    "  [\"escaped-literal\", \x27\\-\x27],",
    "  [\"escaped-literal\", \x27\\a\x27],",
    "  [\"escaped-literal\", \x27\\☃\x27],",
    "]",
    "",
    "[[test]]",
    "name = \"incomplete-control\"",
    "pattern = \x27\\c1\x27",
    "spans = [",
    "  [\"error:incomplete-token\", \x27\\c\x27],",
    "  [\"literal\", \"1\"],",
    "]",
    "",
    "[[test]]",
    "name = \"incomplete-hex\"",
    "pattern = \x27\\xG\x27",
    "spans = [",
    "  [\"error:incomplete-token\", \x27\\x\x27],",
    "  [\"literal\", \"G\"],",
    "]",
    "",
    "[[test]]",
    "name = \"incomplete-unicode\"",
    "pattern = \x27\\u\x7b41\x7d\x27",
    "spans = [",
    "  [\"error:incomplete-token\", \x27\\u\x27],",
    "  [\"error:unquantifiable\", \"\x7b41\x7d\"],",
    "]",
    "",
    "[[test]]",
    "name = \"trailing-backslash\"",
    "pattern = \x27a\\\x27",
    "spans = [",
    "  [\"literal\", \"a\"],",
    "  [\"error:incomplete-token\", \x27\\\x27],",
    "]",
    "",
    "[[test]]",
    "name = \"no-property-escapes\"",
    "pattern = \x27\\p\x7bL\x7d\x27",
    "spans = [",
    "  [\"escaped-literal\", \x27\\p\x27],",
    "  [\"literal\", \"\x7b\"],",
    "  [\"literal\", \"L\x7d\"],",
    "]",
    "",
    "[[test]]",
    "name = \"quantified\"",
    "pattern = \x27\\d+\\.?\\x41*\x27",
    "spans = [",
    "  [\"metasequence\", \x27\\d\x27],",
    "  [\"quantifier-0\", \"+\"],",
    "  [\"escaped-literal\", \x27\\.\x27],",
    "  [\"quantifier-0\", \"?\"],",
    "  [\"metasequence\", \x27\\x41\x27],",
    "  [\"quantifier-0\", \"*\"],",
    "]",
    "",
    "[[test]]",
    "name = \"anchors-and-dot\"",
    "pattern = \"^.$\"",
    "spans = [",
    "  [\"metasequence\", \"^\"],",
    "  [\"metasequence\", \".\"],",
    "  [\"metasequence\", \"$\"],",
    "]",
    "",
    "[[test]]",
    "name = \"stray-closers\"",
    "pattern = \"a]b\x7d\"",
    "spans = [",
    "  [\"literal\", \"a]b\x7d\"],",
    "]"].map (· ++ "\n"))

/-- The tests of the `flags` group. -/
def flagsData : String :=
  String.join ([
    "# Flag resolution. A test with \x27rejected\x27 expects the flags to fail before",
    "# any classification happens.",
    "",
    "[[test]]",
    "name = \"none\"",
    "pattern = \"a\"",
    "spans = [[\"literal\", \"a\"]]",
    "",
    "[[test]]",
    "name = \"all-supported\"",
    "pattern = \"a\"",
    "flags = \"dgimsuy\"",
    "spans = [[\"literal\", \"a\"]]",
    "",
    "[[test]]",
    "name = \"any-order\"",
    "pattern = \"a\"",
    "flags = \"yusmigd\"",
    "spans = [[\"literal\", \"a\"]]",
    "",
    "[[test]]",
    "name = \"duplicate\"",
    "pattern = \"a\"",
    "flags = \"gg\"",
    "rejected = \"duplicate-flag\"",
    "",
    "[[test]]",
    "name = \"duplicate-apart\"",
    "pattern = \"a\"",
    "flags = \"gimi\"",
    "rejected = \"duplicate-flag\"",
    "",
    "[[test]]",
    "name = \"unknown\"",
    "pattern = \"a\"",
    "flags = \"gz\"",
    "rejected = \"invalid-flag\"",
    "",
    "[[test]]",
    "name = \"uppercase\"",
    "pattern = \"a\"",
    "flags = \"G\"",
    "rejected = \"invalid-flag\"",
    "",
    "[[test]]",
    "name = \"unicode-sets\"",
    "pattern = \"a\"",
    "flags = \"v\"",
    "rejected = \"unsupported-mode\"",
    "",
    "[[test]]",
    "name = \"unicode-sets-with-others\"",
    "pattern = \"a\"",
    "flags = \"giv\"",
    "rejected = \"unsupported-mode\"",
    "",
    "[[test]]",
    "name = \"unknown-before-unsupported\"",
    "pattern = \"a\"",
    "flags = \"vx\"",
    "rejected = \"invalid-flag\"",
    "",
    "[[test]]",
    "name = \"duplicate-before-unsupported\"",
    "pattern = \"a\"",
    "flags = \"vv\"",
    "rejected = \"duplicate-flag\""].map (· ++ "\n"))

/-- The tests of the `groups` group. -/
def groupsData : String :=
  String.join ([
    "[[test]]",
    "name = \"capturing\"",
    "pattern = \"(a)\"",
    "spans = [",
    "  [\"group-1\", \"(\"],",
    "  [\"literal\", \"a\"],",
    "  [\"group-1\", \")\"],",
    "]",
    "",
    "[[test]]",
    "name = \"non-capturing\"",
    "pattern = \"(?:ab)\"",
    "spans = [",
    "  [\"group-1\", \"(?:\"],",
    "  [\"literal\", \"ab\"],",
    "  [\"group-1\", \")\"],",
    "]",
    "",
    "[[test]]",
    "name = \"named\"",
    "pattern = \"(?<year>\\\\d\x7b4\x7d)\"",
    "spans = [",
    "  [\"group-1\", \"(?<year>\"],",
    "  [\"metasequence\", \x27\\d\x27],",
    "  [\"quantifier-0\", \"\x7b4\x7d\"],",
    "  [\"group-1\", \")\"],",
    "]",
    "",
    "[[test]]",
    "name = \"nested\"",
    "pattern = \"(a(b)c)\"",
    "spans = [",
    "  [\"group-1\", \"(\"],",
    "  [\"literal\", \"a\"],",
    "  [\"group-2\", \"(\"],",
    "  [\"literal\", \"b\"],",
    "  [\"group-2\", \")\"],",
    "  [\"literal\", \"c\"],",
    "  [\"group-1\", \")\"],",
    "]",
    "",
    "[[test]]",
    "name = \"depth-wraps-after-five\"",
    "pattern = \"((((((a))))))\"",
    "spans = [",
    "  [\"group-1\", \"(\"],",
    "  [\"group-2\", \"(\"],",
    "  [\"group-3\", \"(\"],",
    "  [\"group-4\", \"(\"],",
    "  [\"group-5\", \"(\"],",
    "  [\"group-1\", \"(\"],",
    "  [\"literal\", \"a\"],",
    "  [\"group-1\", \")\"],",
    "  [\"group-5\", \")\"],",
    "  [\"group-4\", \")\"],",
    "  [\"group-3\", \")\"],",
    "  [\"group-2\", \")\"],",
    "  [\"group-1\", \")\"],",
    "]",
    "",
    "[[test]]",
    "name = \"lookarounds\"",
    "pattern = \"(?=a)(?!b)(?<=c)(?<!d)\"",
    "spans = [",
    "  [\"group-1\", \"(?=\"],",
    "  [\"literal\", \"a\"],",
    "  [\"group-1\", \")\"],",
    "  [\"group-1\", \"(?!\"],",
    "  [\"literal\", \"b\"],",
    "  [\"group-1\", \")\"],",
    "  [\"group-1\", \"(?<=\"],",
    "  [\"literal\", \"c\"],",
    "  [\"group-1\", \")\"],",
    "  [\"group-1\", \"(?<!\"],",
    "  [\"literal\", \"d\"],",
    "  [\"group-1\", \")\"],",
    "]",
    "",
    "[[test]]",
    "name = \"unclosed\"",
    "pattern = \"(a\"",
    "spans = [",
    "  [\"error:unbalanced-left-paren\", \"(\"],",
    "  [\"literal\", \"a\"],",
    "]",
    "",
    "[[test]]",
    "name = \"unclosed-outer\"",
    "pattern = \"(?:(a)\"",
    "spans = [",
    "  [\"error:unbalanced-left-paren\", \"(?:\"],",
    "  [\"group-2\", \"(\"],",
    "  [\"literal\", \"a\"],",
    "  [\"group-2\", \")\"],",
    "]",
    "",
    "[[test]]",
    "name = \"unclosed-several\"",
    "pattern = \"(a(b(c)\"",
    "spans = [",
    "  [\"error:unbalanced-left-paren\", \"(\"],",
    "  [\"literal\", \"a\"],",
    "  [\"error:unbalanced-left-paren\", \"(\"],",
    "  [\"literal\", \"b\"],",
    "  [\"group-3\", \"(\"],",
    "  [\"literal\", \"c\"],",
    "  [\"group-3\", \")\"],",
    "]",
    "",
    "[[test]]",
    "name = \"unmatched-close\"",
    "pattern = \"a)b\"",
    "spans = [",
    "  [\"literal\", \"a\"],",
    "  [\"error:unbalanced-right-paren\", \")\"],",
    "  [\"literal\", \"b\"],",
    "]",
    "",
    "[[test]]",
    "name = \"unmatched-close-after-group\"",
    "pattern = \"(a))\"",
    "spans = [",
    "  [\"group-1\", \"(\"],",
    "  [\"literal\", \"a\"],",
    "  [\"group-1\", \")\"],",
    "  [\"error:unbalanced-right-paren\", \")\"],",
    "]",
    "",
    "[[test]]",
    "name = \"invalid-type\"",
    "pattern = \"(?i)a\"",
    "spans = [",
    "  [\"error:invalid-group-type\", \"(?\"],",
    "  [\"literal\", \"i\"],",
    "  [\"error:unbalanced-right-paren\", \")\"],",
    "  [\"literal\", \"a\"],",
    "]",
    "",
    "[[test]]",
    "name = \"invalid-type-at-end\"",
    "pattern = \"a(?\"",
    "spans = [",
    "  [\"literal\", \"a\"],",
    "  [\"error:invalid-group-type\", \"(?\"],",
    "]",
    "",
    "[[test]]",
    "name = \"invalid-name\"",
    "pattern = \"(?<1st>a)\"",
    "spans = [",
    "  [\"error:invalid-group-type\", \"(?\"],",
    "  [\"literal\", \"<1st>a\"],",
    "  [\"error:unbalanced-right-paren\", \")\"],",
    "]",
    "",
    "[[test]]",
    "name = \"duplicate-name\"",
    "pattern = \"(?<n>a)(?<n>b)\"",
    "spans = [",
    "  [\"group-1\", \"(?<n>\"],",
    "  [\"literal\", \"a\"],",
    "  [\"group-1\", \")\"],",
    "  [\"error:duplicate-capture-name\", \"(?<n>\"],",
    "  [\"literal\", \"b\"],",
    "  [\"error:unbalanced-right-paren\", \")\"],",
    "]",
    "",
    "[[test]]",
    "name = \"distinct-names\"",
    "pattern = \"(?<a>x)(?<b>y)\"",
    "spans = [",
    "  [\"group-1\", \"(?<a>\"],",
    "  [\"literal\", \"x\"],",
    "  [\"group-1\", \")\"],",
    "  [\"group-1\", \"(?<b>\"],",
    "  [\"literal\", \"y\"],",
    "  [\"group-1\", \")\"],",
    "]",
    "",
    "[[test]]",
    "name = \"parens-in-class\"",
    "pattern = \"[()]\"",
    "spans = [",
    "  [\"class-boundary\", \"[\"],",
    "  [\"class-body\", \"()\"],",
    "  [\"class-boundary\", \"]\"],",
    "]"].map (· ++ "\n"))

/-- The tests of the `quantifiers` group. -/
def quantifiersData : String :=
  String.join ([
    "[[test]]",
    "name = \"star-plus-question\"",
    "pattern = \"a*b+c?\"",
    "spans = [",
    "  [\"literal\", \"a\"],",
    "  [\"quantifier-0\", \"*\"],",
    "  [\"literal\", \"b\"],",
    "  [\"quantifier-0\", \"+\"],",
    "  [\"literal\", \"c\"],",
    "  [\"quantifier-0\", \"?\"],",
    "]",
    "",
    "[[test]]",
    "name = \"lazy\"",
    "pattern = \"a*?b\x7b2,\x7d?\"",
    "spans = [",
    "  [\"literal\", \"a\"],",
    "  [\"quantifier-0\", \"*?\"],",
    "  [\"literal\", \"b\"],",
    "  [\"quantifier-0\", \"\x7b2,\x7d?\"],",
    "]",
    "",
    "[[test]]",
    "name = \"interval\"",
    "pattern = \"a\x7b2,5\x7d\"",
    "spans = [",
    "  [\"literal\", \"a\"],",
    "  [\"quantifier-0\", \"\x7b2,5\x7d\"],",
    "]",
    "",
    "[[test]]",
    "name = \"interval-reversed\"",
    "pattern = \"a\x7b5,3\x7d\"",
    "spans = [",
    "  [\"literal\", \"a\"],",
    "  [\"error:interval-reversed\", \"\x7b5,3\x7d\"],",
    "]",
    "",
    "[[test]]",
    "name = \"interval-overflow\"",
    "pattern = \"a\x7b0,65536\x7d\"",
    "spans = [",
    "  [\"literal\", \"a\"],",
    "  [\"error:interval-overflow\", \"\x7b0,65536\x7d\"],",
    "]",
    "",
    "[[test]]",
    "name = \"interval-overflow-exact\"",
    "pattern = \"a\x7b65536\x7d\"",
    "spans = [",
    "  [\"literal\", \"a\"],",
    "  [\"error:interval-overflow\", \"\x7b65536\x7d\"],",
    "]",
    "",
    "[[test]]",
    "name = \"interval-max\"",
    "pattern = \"a\x7b65535,65535\x7d\"",
    "spans = [",
    "  [\"literal\", \"a\"],",
    "  [\"quantifier-0\", \"\x7b65535,65535\x7d\"],",
    "]",
    "",
    "[[test]]",
    "name = \"not-an-interval\"",
    "pattern = \"a\x7b,5\x7d\"",
    "spans = [",
    "  [\"literal\", \"a\"],",
    "  [\"literal\", \"\x7b\"],",
    "  [\"literal\", \",5\x7d\"],",
    "]",
    "",
    "[[test]]",
    "name = \"leading\"",
    "pattern = \"*a\"",
    "spans = [",
    "  [\"error:unquantifiable\", \"*\"],",
    "  [\"literal\", \"a\"],",
    "]",
    "",
    "[[test]]",
    "name = \"doubled\"",
    "pattern = \"a+*\"",
    "spans = [",
    "  [\"literal\", \"a\"],",
    "  [\"quantifier-0\", \"+\"],",
    "  [\"error:unquantifiable\", \"*\"],",
    "]",
    "",
    "[[test]]",
    "name = \"after-anchors\"",
    "pattern = \"^*$+\"",
    "spans = [",
    "  [\"metasequence\", \"^\"],",
    "  [\"error:unquantifiable\", \"*\"],",
    "  [\"metasequence\", \"$\"],",
    "  [\"error:unquantifiable\", \"+\"],",
    "]",
    "",
    "[[test]]",
    "name = \"after-word-boundary\"",
    "pattern = \x27\\b?\\B\x7b2\x7d\x27",
    "spans = [",
    "  [\"metasequence\", \x27\\b\x27],",
    "  [\"error:unquantifiable\", \"?\"],",
    "  [\"metasequence\", \x27\\B\x27],",
    "  [\"error:unquantifiable\", \"\x7b2\x7d\"],",
    "]",
    "",
    "[[test]]",
    "name = \"after-group-opening\"",
    "pattern = \"(*)\"",
    "spans = [",
    "  [\"group-1\", \"(\"],",
    "  [\"error:unquantifiable\", \"*\"],",
    "  [\"group-1\", \")\"],",
    "]",
    "",
    "[[test]]",
    "name = \"after-alternator\"",
    "pattern = \"a|+\"",
    "spans = [",
    "  [\"literal\", \"a\"],",
    "  [\"alternator-0\", \"|\"],",
    "  [\"error:unquantifiable\", \"+\"],",
    "]",
    "",
    "[[test]]",
    "name = \"group-style\"",
    "pattern = \"(a(b)+)*\"",
    "spans = [",
    "  [\"group-1\", \"(\"],",
    "  [\"literal\", \"a\"],",
    "  [\"group-2\", \"(\"],",
    "  [\"literal\", \"b\"],",
    "  [\"group-2\", \")\"],",
    "  [\"quantifier-2\", \"+\"],",
    "  [\"group-1\", \")\"],",
    "  [\"quantifier-1\", \"*\"],",
    "]",
    "",
    "[[test]]",
    "name = \"lookahead\"",
    "pattern = \"(?=a)*\"",
    "spans = [",
    "  [\"group-1\", \"(?=\"],",
    "  [\"literal\", \"a\"],",
    "  [\"group-1\", \")\"],",
    "  [\"error:unquantifiable\", \"*\"],",
    "]",
    "",
    "[[test]]",
    "name = \"lookbehind\"",
    "pattern = \"(?<!a)\x7b2\x7d\"",
    "spans = [",
    "  [\"group-1\", \"(?<!\"],",
    "  [\"literal\", \"a\"],",
    "  [\"group-1\", \")\"],",
    "  [\"error:unquantifiable\", \"\x7b2\x7d\"],",
    "]",
    "",
    "[[test]]",
    "name = \"class-and-dot\"",
    "pattern = \"[a]+.?\"",
    "spans = [",
    "  [\"class-boundary\", \"[\"],",
    "  [\"class-body\", \"a\"],",
    "  [\"class-boundary\", \"]\"],",
    "  [\"quantifier-0\", \"+\"],",
    "  [\"metasequence\", \".\"],",
    "  [\"quantifier-0\", \"?\"],",
    "]"].map (· ++ "\n"))

/-- The tests of the `unicode` group. -/
def unicodeData : String :=
  String.join ([
    "# The stricter rules that apply with the \x27u\x27 flag.",
    "",
    "[[test]]",
    "name = \"property-escapes\"",
    "pattern = \x27\\p\x7bL\x7d\\P\x7bScript=Greek\x7d+\x27",
    "flags = \"u\"",
    "spans = [",
    "  [\"metasequence\", \x27\\p\x7bL\x7d\x27],",
    "  [\"metasequence\", \x27\\P\x7bScript=Greek\x7d\x27],",
    "  [\"quantifier-0\", \"+\"],",
    "]",
    "",
    "[[test]]",
    "name = \"property-escape-incomplete\"",
    "pattern = \x27\\p\x7b\x7d\x27",
    "flags = \"u\"",
    "spans = [",
    "  [\"error:incomplete-token\", \x27\\p\x27],",
    "  [\"error:requires-escape\", \"\x7b\"],",
    "  [\"error:requires-escape\", \"\x7d\"],",
    "]",
    "",
    "[[test]]",
    "name = \"code-point-escape\"",
    "pattern = \x27\\u\x7b1F600\x7d\\u\x7b10FFFF\x7d\x27",
    "flags = \"u\"",
    "spans = [",
    "  [\"metasequence\", \x27\\u\x7b1F600\x7d\x27],",
    "  [\"metasequence\", \x27\\u\x7b10FFFF\x7d\x27],",
    "]",
    "",
    "[[test]]",
    "name = \"code-point-escape-too-large\"",
    "pattern = \x27\\u\x7b110000\x7d\x27",
    "flags = \"u\"",
    "spans = [",
    "  [\"error:invalid-escape\", \x27\\u\x7b110000\x7d\x27],",
    "]",
    "",
    "[[test]]",
    "name = \"ambiguous-octal\"",
    "pattern = \x27\\0\\01\x27",
    "flags = \"u\"",
    "spans = [",
    "  [\"metasequence\", \x27\\0\x27],",
    "  [\"error:invalid-escape\", \x27\\01\x27],",
    "]",
    "",
    "[[test]]",
    "name = \"identity-escapes\"",
    "pattern = \x27\\/\\^\\$\\\\\\.\\*\\+\\?\\(\\)\\[\\]\\\x7b\\\x7d\\|\x27",
    "flags = \"u\"",
    "spans = [",
    "  [\"escaped-literal\", \x27\\/\x27],",
    "  [\"escaped-literal\", \x27\\^\x27],",
    "  [\"escaped-literal\", \x27\\$\x27],",
    "  [\"escaped-literal\", \x27\\\\\x27],",
    "  [\"escaped-literal\", \x27\\.\x27],",
    "  [\"escaped-literal\", \x27\\*\x27],",
    "  [\"escaped-literal\", \x27\\+\x27],",
    "  [\"escaped-literal\", \x27\\?\x27],",
    "  [\"escaped-literal\", \x27\\(\x27],",
    "  [\"escaped-literal\", \x27\\)\x27],",
    "  [\"escaped-literal\", \x27\\[\x27],",
    "  [\"escaped-literal\", \x27\\]\x27],",
    "  [\"escaped-literal\", \x27\\\x7b\x27],",
    "  [\"escaped-literal\", \x27\\\x7d\x27],",
    "  [\"escaped-literal\", \x27\\|\x27],",
    "]",
    "",
    "[[test]]",
    "name = \"invalid-identity-escapes\"",
    "pattern = \x27\\a\\-\\☃\x27",
    "flags = \"u\"",
    "spans = [",
    "  [\"error:invalid-escape\", \x27\\a\x27],",
    "  [\"error:invalid-escape\", \x27\\-\x27],",
    "  [\"error:invalid-escape\", \x27\\☃\x27],",
    "]",
    "",
    "[[test]]",
    "name = \"lone-braces-and-brackets\"",
    "pattern = \"a\x7bb\x7dc]\"",
    "flags = \"u\"",
    "spans = [",
    "  [\"literal\", \"a\"],",
    "  [\"error:requires-escape\", \"\x7b\"],",
    "  [\"literal\", \"b\"],",
    "  [\"error:requires-escape\", \"\x7d\"],",
    "  [\"literal\", \"c\"],",
    "  [\"error:requires-escape\", \"]\"],",
    "]",
    "",
    "[[test]]",
    "name = \"interval-still-works\"",
    "pattern = \"a\x7b2\x7d\"",
    "flags = \"u\"",
    "spans = [",
    "  [\"literal\", \"a\"],",
    "  [\"quantifier-0\", \"\x7b2\x7d\"],",
    "]",
    "",
    "[[test]]",
    "name = \"class-property-escape\"",
    "pattern = \x27[\\p\x7bL\x7d\\d]\x27",
    "flags = \"u\"",
    "spans = [",
    "  [\"class-boundary\", \"[\"],",
    "  [\"metasequence\", \x27\\p\x7bL\x7d\x27],",
    "  [\"metasequence\", \x27\\d\x27],",
    "  [\"class-boundary\", \"]\"],",
    "]",
    "",
    "[[test]]",
    "name = \"class-range-with-property-escape\"",
    "pattern = \x27[\\p\x7bL\x7d-z]\x27",
    "flags = \"u\"",
    "spans = [",
    "  [\"class-boundary\", \"[\"],",
    "  [\"metasequence\", \x27\\p\x7bL\x7d\x27],",
    "  [\"error:invalid-range\", \"-\"],",
    "  [\"class-body\", \"z\"],",
    "  [\"class-boundary\", \"]\"],",
    "]",
    "",
    "[[test]]",
    "name = \"class-invalid-escapes\"",
    "pattern = \x27[\\1\\01\\a\\k]\x27",
    "flags = \"u\"",
    "spans = [",
    "  [\"class-boundary\", \"[\"],",
    "  [\"error:invalid-escape\", \x27\\1\x27],",
    "  [\"error:invalid-escape\", \x27\\01\x27],",
    "  [\"error:invalid-escape\", \x27\\a\x27],",
    "  [\"error:invalid-escape\", \x27\\k\x27],",
    "  [\"class-boundary\", \"]\"],",
    "]",
    "",
    "[[test]]",
    "name = \"class-valid-escapes\"",
    "pattern = \x27[\\-\\/\\]\\b\\0\\u\x7b1F600\x7d]\x27",
    "flags = \"u\"",
    "spans = [",
    "  [\"class-boundary\", \"[\"],",
    "  [\"metasequence\", \x27\\-\x27],",
    "  [\"metasequence\", \x27\\/\x27],",
    "  [\"metasequence\", \x27\\]\x27],",
    "  [\"metasequence\", \x27\\b\x27],",
    "  [\"metasequence\", \x27\\0\x27],",
    "  [\"metasequence\", \x27\\u\x7b1F600\x7d\x27],",
    "  [\"class-boundary\", \"]\"],",
    "]",
    "",
    "[[test]]",
    "name = \"class-code-point-range\"",
    "pattern = \x27[\\u\x7b1F600\x7d-\\u\x7b1F64F\x7d]\x27",
    "flags = \"u\"",
    "spans = [",
    "  [\"class-boundary\", \"[\"],",
    "  [\"metasequence\", \x27\\u\x7b1F600\x7d\x27],",
    "  [\"range-hyphen\", \"-\"],",
    "  [\"metasequence\", \x27\\u\x7b1F64F\x7d\x27],",
    "  [\"class-boundary\", \"]\"],",
    "]",
    "",
    "[[test]]",
    "name = \"other-flags-do-not-change-classification\"",
    "pattern = \"^a.b$\"",
    "flags = \"gimsyd\"",
    "spans = [",
    "  [\"metasequence\", \"^\"],",
    "  [\"literal\", \"a\"],",
    "  [\"metasequence\", \".\"],",
    "  [\"literal\", \"b\"],",
    "  [\"metasequence\", \"$\"],",
    "]"].map (· ++ "\n"))

end RegexHighlight.Suite.Data
