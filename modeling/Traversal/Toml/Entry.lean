import Traversal.Toml.Moment

/-!
# Keys and values

A key is a path of names with points between them.  Lists and tables in braces hold values again, up to
a fixed depth.
-/

namespace Traversal.Toml

open Reader

/-- The number of names in a key, and of brackets around a value, at which a reader gives up. -/
def depthLimit : Nat := 80

/-- Whether a character may stand in a bare key. -/
def isBareChar (c : Char) : Bool :=
  c.isAlphanum || c = '-' || c = '_'

/-- Reads one name of a key. -/
def name : Reader (List Char) := fun s =>
  match s with
  | [] => refuse s
  | '"' :: _ => basicString s
  | '\'' :: _ => literalString s
  | _ => takeWhile1 isBareChar s

/-- Reads one name of a key with the blanks around it. -/
def spacedName : Reader Key := do
  blanks
  let (chars, span) ← spanned name
  blanks
  return ⟨String.ofList chars, span⟩

/-- Reads a key. -/
def key : Reader (List Key) :=
  checked (named (separated1 spacedName (do let _ ← char '.')) "key") fun names =>
    if names.length < depthLimit then .ok names else .error .tooDeep

/-- An entry: its key, as the names on the way and the last one, with its value. -/
structure Entry where
  path : List Key
  key : Key
  value : Value
  span : Span

/-- Reads a key, the equals sign and a value, with something behind it. -/
def entry (value : Reader Value) (rest : Reader Unit) : Reader Entry := do
  let names ← key
  must do
    let _ ← expecting (char '=') ["`.`", "`=`"]
    blanks
    let (value, span) ← spanned value
    rest
    match names.reverse with
    | last :: before => return ⟨before.reverse, last, value, span⟩
    | [] => refuse

/-- Reads a list. -/
def list (value : Reader Value) : Reader Value := do
  let _ ← char '['
  let elements ← must do
    let elements ← separated
      (do
        spaceAndComments
        let element ← spanned value
        spaceAndComments
        return element)
      (do let _ ← char ',')
    if !elements.isEmpty then
      let _ ← optional (char ',')
    spaceAndComments
    return elements
  let _ ← named (expecting (must (char ']')) ["`]`"]) "array"
  return .list elements

/-- Lets a key of a table in braces stand for a value. -/
def setInline (entries : List (String × Value)) (name : String) (value : Value) :
    List (String × Value) :=
  if entries.any (·.1 = name) then
    entries.map fun e => if e.1 = name then (e.1, value) else e
  else entries ++ [(name, value)]

/-- What a key of a table in braces stands for. -/
def inline? (entries : List (String × Value)) (name : String) : Option Value :=
  (entries.find? (·.1 = name)).map (·.2)

/-- Adds a value to a table in braces, under the tables that its key names on the way. -/
def addInline (name : String) (value : Value) (seen : List String) (path : List String)
    (entries : List (String × Value)) : Except Objection (List (String × Value)) :=
  match path with
  | [] =>
    if (inline? entries name).isSome then .error (.duplicateKey name)
    else .ok (entries ++ [(name, value)])
  | step :: path =>
    let seen := seen ++ [step]
    match inline? entries step with
    | none =>
      (addInline name value seen path []).map fun inner => setInline entries step (.inline true inner)
    | some (.inline true inner) =>
      (addInline name value seen path inner).map fun inner =>
        setInline entries step (.inline true inner)
    | some (.inline false _) => .error (.duplicateKey step)
    | some v => .error (.extendsValue seen v.typeName)

/-- The table in braces of some entries. -/
def inlineOf (entries : List Entry) : Except Objection Value := do
  let entries ← entries.foldlM
    (fun t e => addInline e.key.name e.value [] (e.path.map (·.name)) t) []
  .ok (.inline false entries)

/-- Reads a table in braces. -/
def inline (value : Reader Value) : Reader Value := do
  let _ ← char '\x7b'
  let table ← must <| checked
    (do
      let entries ← separated (entry value blanks) (do let _ ← char ',')
      blanks
      return entries)
    inlineOf
  let _ ← named (expecting (must (char '\x7d')) ["`\x7d`"]) "inline table"
  return table

/-- Says that a string could have stood in place of what was refused. -/
def orString (r : Reader Value) : Reader Value :=
  expecting (named r "string") ["`\"`", "`'`"]

/-- Reads a value, given how to read what stands in brackets and in braces. -/
def valueOf (list inline : Reader Value) : Reader Value := fun s =>
  match s with
  | [] => refuse s
  | c :: _ =>
    if c = '"' || c = '\'' then (do return .text (String.ofList (← string)) : Reader Value) s
    else if c = '[' then list s
    else if c = '\x7b' then inline s
    else if isSign c || c.isDigit then
      orElse (do return .moment (← moment))
        (orElse (do return .real (← real)) (do return .integer (← integer))) s
    else if c = '_' then
      expecting (do return .integer (← integer) : Reader Value) ["leading digit"] s
    else if c = '.' then
      expecting (do return .real (← real) : Reader Value) ["leading digit"] s
    else if c = 't' then
      orString (do must (literal ['t', 'r', 'u', 'e']); return .boolean true) s
    else if c = 'f' then
      orString (do must (literal ['f', 'a', 'l', 's', 'e']); return .boolean false) s
    else if c = 'i' then
      orString (do literal ['i', 'n', 'f']; return .real (.infinite false)) s
    else if c = 'n' then
      orString (do literal ['n', 'a', 'n']; return .real .nan) s
    else orString refuse s

/-- Refuses a bracket that is too deep. -/
def refuseDepth : Reader Value := fun s =>
  .error { place := s, isFinal := true, objection := some .tooDeep }

/-- Reads a value with at most so many brackets around another. -/
def value : Nat → Reader Value
  | 0 => valueOf refuseDepth refuseDepth
  | depth + 1 => valueOf (list (value depth)) (inline (value depth))

end Traversal.Toml
