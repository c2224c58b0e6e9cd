import RustWorkbench.Analyzer.Names

/-!
# Text helpers of the analyzer

The `str` methods that the ownership handlers use, on character lists, and the small functions
the handlers build from them.
-/

namespace RustWorkbench.Analyzer

/-- `str::len`. -/
def byteLen (text : String) : Nat := (text.toList.map Char.utf8Size).sum

/-- `char::is_whitespace`. -/
def isWhitespace (c : Char) : Bool :=
  let n := c.toNat
  (0x09 ≤ n && n ≤ 0x0d) || n == 0x20 || n == 0x85 || n == 0xa0 || n == 0x1680
    || (0x2000 ≤ n && n ≤ 0x200a) || n == 0x2028 || n == 0x2029 || n == 0x202f || n == 0x205f
    || n == 0x3000

/-- `str::contains` for a string pattern. -/
def containsText (text pattern : String) : Bool :=
  text.toList.tails.any fun rest => pattern.toList.isPrefixOf rest

def startsWith (text pattern : String) : Bool := pattern.toList.isPrefixOf text.toList

def stripPrefix (text pattern : String) : Option String :=
  (text.toList.dropPrefix? pattern.toList).map String.ofList

/-- `str::to_ascii_lowercase`. -/
def toAsciiLowercase (text : String) : String := String.ofList (text.toList.map Char.toLower)

def trim (text : String) : String :=
  String.ofList ((text.toList.dropWhile isWhitespace).reverse.dropWhile isWhitespace).reverse

/-- `str::trim_start_matches` for a string pattern: at most `fuel` repetitions. -/
def trimStartMatchesGo (pattern : List Char) : Nat → List Char → List Char
  | 0, text => text
  | fuel + 1, text =>
    match text.dropPrefix? pattern with
    | some rest => if pattern.isEmpty then text else trimStartMatchesGo pattern fuel rest
    | none => text

def trimStartMatches (text pattern : String) : String :=
  String.ofList (trimStartMatchesGo pattern.toList text.length text.toList)

/-- `str::trim_end_matches` for a string pattern. -/
def trimEndMatches (text pattern : String) : String :=
  String.ofList (trimStartMatchesGo pattern.toList.reverse text.length text.toList.reverse).reverse

/-- The words of a text, `split_whitespace`; `word` is the word being read. -/
def splitWhitespaceGo : List Char → List Char → List (List Char)
  | word, [] => if word.isEmpty then [] else [word]
  | word, c :: cs =>
    if isWhitespace c then
      if word.isEmpty then splitWhitespaceGo [] cs else word :: splitWhitespaceGo [] cs
    else splitWhitespaceGo (word ++ [c]) cs

def splitWhitespace (text : String) : List String :=
  (splitWhitespaceGo [] text.toList).map String.ofList

/-- `ownership_root_name`: the local a place starts from. -/
def ownershipRootName (place : String) : String :=
  let trimmed := (trim place).toList.dropWhile (· == '*')
  let trimmed := trimStartMatches (String.ofList (trimmed.dropWhile (· == '&'))) "mut "
  String.ofList (trimmed.toList.takeWhile fun c => !(['.', '[', '(', ' '].contains c))

/-- `bounded_source_label`: one line, at most 96 characters. -/
def boundedSourceLabel (source : String) : String :=
  let normalized := (" ".intercalate (splitWhitespace source)).toList
  let label := String.ofList (normalized.take 96)
  if normalized.length > 96 then label ++ "…" else label

/-- `reference_referent_type`. -/
def referenceReferentType (typeName : String) : Option String :=
  (stripPrefix typeName "&mut " <|> stripPrefix typeName "&").map trim

end RustWorkbench.Analyzer
