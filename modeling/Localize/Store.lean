/-! # Occurrences and the store

An occurrence is one message found in a source. A store holds the occurrences found in a run,
in the order they were found, and groups them by domain. A domain's catalog text starts with a
fixed header for the language, then has one block per occurrence with a non-empty singular,
ordered by context and then position (byte order, stable for equal keys). Every block has empty
strings.
-/

/-! ## Message occurrences

An occurrence records where a message was found (`path:line`), its singular and plural text, its
context and the domain it belongs to. An empty string stands for an absent value; occurrences
without a domain belong to the default domain.
-/

namespace Localize

/-- One message found in a source. -/
structure Occurrence where
  /-- `path:line` of the place where the message was found. -/
  position : String
  singular : String
  plural : String := ""
  context : String := ""
  domain : String := ""
deriving Repr, DecidableEq, Inhabited

/-- The domain of occurrences that name none. -/
def defaultDomain : String := "default"

/-- The domain an occurrence is filed under. -/
def Occurrence.fileDomain (o : Occurrence) : String :=
  if o.domain.isEmpty then defaultDomain else o.domain

/-- The position text for line `line` of `path`. -/
def positionText (path : String) (line : Nat) : String := path ++ ":" ++ toString line

/-! ## The store -/

/-- The occurrences found so far, in the order they were found. -/
structure Store where
  occurrences : List Occurrence := []
deriving Repr, Inhabited

namespace Store

/-- The store with one more occurrence. -/
def add (s : Store) (o : Occurrence) : Store := { occurrences := s.occurrences ++ [o] }

/-- The number of occurrences. -/
def size (s : Store) : Nat := s.occurrences.length

/-- Inserts a name into a list that is sorted and free of duplicates, keeping both. -/
def insertName (name : String) : List String → List String
  | [] => [name]
  | n :: ns =>
    if name < n then name :: n :: ns
    else if name = n then n :: ns
    else n :: insertName name ns

/-- The domains that hold an occurrence, in byte order. -/
def domains (s : Store) : List String :=
  s.occurrences.foldl (fun acc o => insertName o.fileDomain acc) []

/-- The occurrences of one domain, in the order they were found. -/
def occurrencesOf (s : Store) (domain : String) : List Occurrence :=
  s.occurrences.filter (·.fileDomain == domain)

end Store

/-- A row of catalog text escaped for a quoted string: backslash and double quote only. -/
def escapeRow (text : String) : String :=
  String.ofList (text.toList.flatMap fun c =>
    if c = '\\' then ['\\', '\\'] else if c = '"' then ['\\', '"'] else [c])

/-- The comments that open the fixed catalog header. -/
def headerComments : List String :=
  ["SOME DESCRIPTIVE TITLE.", "Copyright (C) YEAR THE PACKAGE\x27S COPYRIGHT HOLDER",
   "This file is distributed under the same license as the PACKAGE package.",
   "FIRST AUTHOR <EMAIL@ADDRESS>, YEAR."]

/-- The fields of the fixed catalog header, one per row, with the language filled in. -/
def headerFields (language : String) : List String :=
  ["Project-Id-Version: PACKAGE VERSION", "Report-Msgid-Bugs-To: ",
   "POT-Creation-Date: 2019-11-29 14:11+0000", "PO-Revision-Date: YEAR-MO-DA HO:MI+ZONE",
   "Last-Translator: FULL NAME <EMAIL@ADDRESS>", "Language-Team: LANGUAGE <LL@li.org>",
   "Language: " ++ language, "MIME-Version: 1.0", "Content-Type: text/plain; charset=UTF-8",
   "Content-Transfer-Encoding: 8bit", "Plural-Forms: nplurals=2; plural=(n != 1);"]

/-- The lines of the fixed catalog header: its comments and an empty comment line, the fuzzy
flag, an empty id and string, then one quoted row per field, escaped and ending in an escaped
newline. -/
def canonicalHeaderLines (language : String) : List String :=
  headerComments.map ("# " ++ ·) ++ ["#", "#, fuzzy", "msgid \"\"", "msgstr \"\""] ++
    (headerFields language).map fun field => "\"" ++ escapeRow field ++ "\\n\""

/-- The fixed catalog header, with the language filled in: its lines, each ended by a
newline. -/
def canonicalHeader (language : String) : String :=
  String.join ((canonicalHeaderLines language).map (· ++ "\n"))

/-- Quoted rows, one per line: every row but the last ends in an escaped newline. -/
def quoteRows : List (List Char) → String
  | [] => ""
  | [row] => "\"" ++ escapeRow (String.ofList row) ++ "\"\n"
  | row :: rows => "\"" ++ escapeRow (String.ofList row) ++ "\\n\"\n" ++ quoteRows rows

/-- The quoted rows of a message: one per line of the message. -/
def quotedRows (text : String) : String := quoteRows (text.toList.splitOn '\n')

/-- The catalog block of one occurrence. -/
def Occurrence.block (o : Occurrence) : String :=
  "\n#: " ++ o.position ++ "\n" ++
  (if o.context.isEmpty then "" else "msgctxt \"" ++ escapeRow o.context ++ "\"\n") ++
  "msgid " ++ quotedRows o.singular ++
  (if o.plural.isEmpty then "msgstr \"\"\n"
   else "msgid_plural " ++ quotedRows o.plural ++ "msgstr[0] \"\"\nmsgstr[1] \"\"\n")

/-- Occurrences ordered by context, then position. -/
def Occurrence.catalogOrder (a b : Occurrence) : Bool :=
  a.context < b.context || (a.context == b.context && a.position ≤ b.position)

/-- The catalog text of one domain for one language. -/
def Store.renderDomain (s : Store) (domain language : String) : String :=
  let ordered := (s.occurrencesOf domain).mergeSort Occurrence.catalogOrder
  canonicalHeader language ++
    String.join ((ordered.filter (!·.singular.isEmpty)).map Occurrence.block)

end Localize
