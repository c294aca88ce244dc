import Traversal.Toml.Entry

/-!
# Documents

A document is a sequence of entries and table headers.  The entries behind a header go into its table;
the finished table is put into the tables that the header names on the way, which come into being as
needed.  A table can be opened by one header only, and dotted keys cannot reach into a table that has
one.
-/

namespace Traversal.Toml

open Reader

/-- How a key is spelled in an objection: bare if it can be, otherwise in quotes. -/
def spelling (name : String) : String :=
  let chars := name.toList
  let isControl (c : Char) : Bool := (c.toNat < 32 && c ≠ '\t') || c.toNat = 127
  if !chars.isEmpty && chars.all isBareChar then name
  else
    let isPlain := !chars.any fun c => isControl c || c = '\\' || c = '"'
    let isLiteral := !chars.any fun c => isControl c || c = '\''
    if !isPlain && isLiteral then "'" ++ name ++ "'"
    else "\"" ++ String.ofList (chars.flatMap quote) ++ "\""
where
  /-- How one character of a quoted key is spelled. -/
  quote (c : Char) : List Char :=
    match c with
    | '\x08' => ['\\', 'b']
    | '\t' => ['\\', 't']
    | '\n' => ['\\', 'n']
    | '\x0c' => ['\\', 'f']
    | '\r' => ['\\', 'r']
    | '"' => ['\\', '"']
    | '\\' => ['\\', '\\']
    | c =>
      if c.toNat < 32 || c.toNat = 127 then
        let digits := (Nat.toDigits 16 c.toNat).map Char.toUpper
        ['\\', 'u'] ++ List.replicate (4 - digits.length) '0' ++ digits
      else [c]

/-- The objection to a header whose last name is taken. -/
def takenHeader (path : List Key) (key : Key) : Objection :=
  .duplicateIn (spelling key.name) (path.map (·.name))

namespace Table

/-- Changes the table that a path leads to and tells something about it; tables on the way that are
missing come into being.  Of the tables of a repeated header the last one is meant. -/
def within {α : Type} (t : Table) (isDotted : Bool) (seen path : List Key)
    (change : Table → Except Objection (Table × α)) : Except Objection (Table × α) :=
  match path with
  | [] => change t
  | key :: path =>
    let seen := seen ++ [key]
    match t.get? key.name with
    | none => do
      let (inner, a) ←
        within { origin := { isImplicit := true, isDotted } } isDotted seen path change
      .ok (t.set key (.table inner.origin inner.entries), a)
    | some (.value v _) => .error (.extendsValue (seen.map (·.name)) v.typeName)
    | some (.table origin entries) =>
      if isDotted && !origin.isImplicit then .error (.duplicateKey key.name)
      else do
        let (inner, a) ← within ⟨origin, entries⟩ isDotted seen path change
        .ok (t.set key (.table inner.origin inner.entries), a)
    | some (.tables tables) => do
      let (origin, entries) := tables.getLast?.getD ({}, [])
      let (inner, a) ← within ⟨origin, entries⟩ isDotted seen path change
      .ok (t.set key (.tables (tables.dropLast ++ [(inner.origin, inner.entries)])), a)

/-- Changes the table that the path of a header leads to. -/
def atHeader (t : Table) (path : List Key) (change : Table → Except Objection Table) :
    Except Objection Table :=
  (t.within false [] path fun t => (change t).map (·, ())).map (·.1)

/-- Adds an entry to a table.  A table that a dotted key reaches must have come about through dotted
keys. -/
def add (t : Table) (home : List Key) (e : Entry) : Except Objection Table :=
  let change (inner : Table) : Except Objection (Table × Unit) :=
    if inner.origin.isDotted = e.path.isEmpty then .error (.duplicateKey e.key.name)
    else if (inner.get? e.key.name).isSome then
      .error (.duplicateIn e.key.name (home.map (·.name)))
    else .ok (inner.set e.key (.value e.value e.span), ())
  (t.within true [] e.path change).map (·.1)

end Table

/-- The header that the entries being read stand under. -/
inductive Header
  | root
  | single (path : List Key) (key : Key)
  /-- A header in double brackets, which can be repeated. -/
  | repeated (path : List Key) (key : Key)

/-- The names of a header. -/
def Header.names : Header → List Key
  | root => []
  | single path key => path ++ [key]
  | repeated path key => path ++ [key]

/-- A document that is being read: the tables finished so far and the one under the last header. -/
structure Draft where
  finished : Table
  header : Header := .root
  current : Table

namespace Draft

/-- The draft of a document before its first line. -/
def empty (document : Place) : Draft :=
  { finished := {}, current := { origin := { span := some ⟨document, document⟩ } } }

/-- Adds an entry to the current table, whose stretch then reaches to the end of its value. -/
def add (draft : Draft) (e : Entry) : Except Objection Draft := do
  let span := draft.current.origin.span.map fun span => Span.mk span.start e.span.stop
  let current := { draft.current with origin := { draft.current.origin with span } }
  let current ← current.add draft.header.names e
  .ok { draft with current }

/-- Puts the current table into its place. -/
def finish (draft : Draft) : Except Objection Table :=
  let origin := draft.current.origin
  let entries := draft.current.entries
  match draft.header with
  | .root => .ok draft.current
  | .single path key =>
    draft.finished.atHeader path fun t => .ok (t.set key (.table origin entries))
  | .repeated path key =>
    draft.finished.atHeader path fun t =>
      match t.get? key.name with
      | none => .ok (t.set key (.tables [(origin, entries)]))
      | some (.tables tables) => .ok (t.set key (.tables (tables ++ [(origin, entries)])))
      | some _ => .error (takenHeader path key)

/-- Opens the table of a header in single brackets.  It may have been named on the way to another
table before, and then it keeps what was put into it. -/
def openSingle (draft : Draft) (path : List Key) (key : Key) (span : Span) :
    Except Objection Draft := do
  let finished ← draft.finish
  let (finished, entries) ← finished.within false [] path fun t =>
    match t.get? key.name with
    | none => .ok (t, [])
    | some (.table old entries) =>
      if old.isImplicit && !old.isDotted then .ok (t.erase key.name, entries)
      else .error (takenHeader path key)
    | some _ => .error (takenHeader path key)
  .ok { finished, header := .single path key, current := { origin := { span := some span }, entries } }

/-- Opens one more table of a header in double brackets. -/
def openRepeated (draft : Draft) (path : List Key) (key : Key) (span : Span) :
    Except Objection Draft := do
  let finished ← draft.finish
  let finished ← finished.atHeader path fun t =>
    match t.get? key.name with
    | none => .ok (t.set key (.tables []))
    | some (.tables _) => .ok t
    | some _ => .error (takenHeader path key)
  .ok { finished, header := .repeated path key, current := { origin := { span := some span } } }

end Draft

/-- Reads something and lets it change a draft; an objection is raised at its beginning. -/
def apply {α : Type} (r : Reader α) (change : α → Except Objection Draft) : Reader Draft :=
  checked r change

/-- Names what may follow an entry or a header on its line. -/
def lineRestOrComment : Reader Unit :=
  expecting lineRest ["newline", "`#`"]

/-- Reads a header between given brackets. -/
def header (opening closing : List Char) : Reader (List Key × Span) := do
  let read ← spanned do
    literal opening
    let names ← must key
    expecting (must (literal closing)) ["`.`", "`" ++ String.ofList closing ++ "`"]
    return names
  must lineRestOrComment
  return read

/-- The names on the way and the last one. -/
def splitLast {α : Type} (names : List α) : Option (List α × α) :=
  match names.reverse with
  | [] => none
  | last :: before => some (before.reverse, last)

/-- Reads a table header. -/
def tableHeader (draft : Draft) : Reader Draft :=
  (named · "table header") fun s =>
    match s with
    | '[' :: '[' :: _ =>
      apply (header ['[', '['] [']', ']']) (fun (names, span) =>
        match splitLast names with
        | some (path, key) => draft.openRepeated path key span
        | none => .ok draft) s
    | '[' :: _ :: _ =>
      apply (header ['['] [']']) (fun (names, span) =>
        match splitLast names with
        | some (path, key) => draft.openSingle path key span
        | none => .ok draft) s
    | _ => refuse s

/-- Reads one line of a document, or several if a value takes them. -/
def line (draft : Draft) : Reader Draft := fun s =>
  match s with
  | [] => refuse s
  | c :: _ =>
    if c = '#' then (do must (do comment; lineEnd); return draft : Reader Draft) s
    else if c = '[' then must (tableHeader draft) s
    else if c = '\n' || c = '\r' then (do lineBreak; return draft : Reader Draft) s
    else must (apply (entry (value (depthLimit - 1)) lineRestOrComment) draft.add) s

/-- Reads at most so many lines with the blanks in front of the next one. -/
def lines : Nat → Draft → Reader Draft
  | 0, draft => Reader.pure draft
  | n + 1, draft => fun s =>
    match (do let draft ← line draft; blanks; return draft : Reader Draft) s with
    | .ok (draft, s') => lines n draft s'
    | .error refusal => if refusal.isFinal then .error refusal else .ok (draft, s)

/-- Reads a document. -/
def document : Reader Draft := fun s =>
  (do
    let _ ← optional (char '\ufeff')
    blanks
    let draft ← lines s.length (Draft.empty s)
    atEnd
    return draft : Reader Draft) s

/-- The fault that a refusal amounts to; it marks one character. -/
def Refusal.fault (chars : List Char) (refusal : Refusal) : Fault :=
  Fault.locate chars ⟨refusal.place, refusal.place.drop 1⟩
    (.grammar refusal.construct refusal.expected refusal.objection)

/-- Reads a whole document. -/
def parse (text : String) : Except Fault Table :=
  let chars := text.toList
  match checked document Draft.finish chars with
  | .ok (t, _) => .ok t
  | .error refusal => .error (refusal.fault chars)

end Traversal.Toml
