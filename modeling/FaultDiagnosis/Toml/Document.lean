import FaultDiagnosis.Toml.Scalar

/-!
# Reading TOML documents

A document is read line by line: a header opens a table, and a line with a key adds a value to the
table opened last. `Toml.parse` gives the entries of the document, or nothing where it is not well
written or a key is given twice.
-/

namespace FaultDiagnosis.Toml

/-! ### Comments and keys -/

/-- The rest after a comment, if there is one: the end of the line. Controls may not stand in it. -/
def skipComment : List Char → Option (List Char)
  | '#' :: cs =>
    match cs.dropWhile isPlain with
    | [] => some []
    | rest => if (newline? rest).isSome then some rest else none
  | cs => some cs

/-- The rest after the end of a line: spaces, a comment, and a line break or the end of the text. -/
def lineEnd (cs : List Char) : Option (List Char) :=
  match skipComment (skipSpaces cs) with
  | none => none
  | some [] => some []
  | some rest => newline? rest

/-- May the character stand in a key without marks? -/
def isBareKeyChar (c : Char) : Bool :=
  c.isAlphanum || c = '_' || c = '-'

/-- A key without dots. -/
def simpleKey (cs : List Char) : Option (String × List Char) :=
  match cs with
  | '"' :: _ | '\x27' :: _ => lineText cs
  | _ =>
    let bare := cs.takeWhile isBareKeyChar
    if bare.isEmpty then none else some (String.ofList bare, cs.dropWhile isBareKeyChar)

/-- The parts of a key between its dots, at most `fuel` of them. Spaces may stand around each. -/
def keyParts : Nat → Reader (List String)
  | 0, _ => none
  | fuel + 1, cs => do
    let (key, rest) ← simpleKey (skipSpaces cs)
    match skipSpaces rest with
    | '.' :: rest =>
      let (keys, rest) ← keyParts fuel rest
      return (key :: keys, rest)
    | rest => return ([key], rest)

/-- How deep values may be nested, and how many parts a key may have. -/
def depthLimit : Nat := 79

/-- A key: the parts before the last, and the last. -/
def key (cs : List Char) : Option ((List String × String) × List Char) := do
  let (keys, rest) ← keyParts depthLimit cs
  let last ← keys.getLast?
  return ((keys.dropLast, last), rest)

/-- The rest after blanks, line breaks and comments, as they may stand between the items of an
array. -/
def skipLines (inComment : Bool) : List Char → Option (List Char)
  | '\n' :: rest => skipLines false rest
  | '\r' :: '\n' :: rest => skipLines false rest
  | c :: rest =>
    if inComment then if isPlain c then skipLines true rest else none
    else if isSpace c then skipLines false rest
    else if c = '#' then skipLines true rest
    else if c = '\r' then none
    else some (c :: rest)
  | [] => some []

/-! ### Values -/

mutual

/-- A value, which may be nested `depth` deep. `fuel` bounds the number of steps. -/
def value : Nat → Nat → Reader Toml
  | 0, _, _ => none
  | fuel + 1, depth, cs =>
    match cs with
    | '"' :: _ | '\x27' :: _ => (text cs).map fun (s, rest) => (.string s, rest)
    | 't' :: _ => word "true" (.boolean true) cs
    | 'f' :: _ => word "false" (.boolean false) cs
    | '[' :: rest =>
      match depth with
      | 0 => none
      | depth + 1 => do
        let (items, rest) ← items fuel depth (← skipLines false rest)
        return (.array items, rest)
    | '\x7b' :: rest =>
      match depth with
      | 0 => none
      | depth + 1 =>
        match skipSpaces rest with
        | '\x7d' :: rest => some (.table .inline [], rest)
        | rest => do
          let (entries, rest) ← members fuel depth [] rest
          return (.table .inline entries, rest)
    | _ => numberOrTime cs

/-- The items of an array up to its closing bracket. A comma may follow the last one. -/
def items : Nat → Nat → Reader (List Toml)
  | 0, _, _ => none
  | fuel + 1, depth, cs =>
    match cs with
    | ']' :: rest => some ([], rest)
    | _ => do
      let (v, rest) ← value fuel depth cs
      match ← skipLines false rest with
      | ',' :: rest =>
        let (vs, rest) ← items fuel depth (← skipLines false rest)
        return (v :: vs, rest)
      | ']' :: rest => return ([v], rest)
      | _ => none

/-- The members of a table between braces, at least one, up to the closing brace. They are added to
`entries`. -/
def members : Nat → Nat → Entries → Reader Entries
  | 0, _, _, _ => none
  | fuel + 1, depth, entries, cs => do
    let ((path, last), rest) ← key cs
    match rest with
    | '=' :: rest =>
      let (v, rest) ← value fuel depth (skipSpaces rest)
      let entries ← Entries.insertAt path last v .inline entries
      match skipSpaces rest with
      | ',' :: rest => members fuel depth entries rest
      | '\x7d' :: rest => return (entries, rest)
      | _ => none
    | _ => none

end

/-- A value at the top of an entry. -/
def topValue (cs : List Char) : Option (Toml × List Char) :=
  value (2 * cs.length + 2) depthLimit cs

/-! ### Lines -/

/-- What has been read: the entries of the document, and the header of the current table. -/
structure State where
  entries : Entries := []
  header : List String := []

/-- Adds an entry to the current table. -/
def State.addEntry (s : State) (path : List String) (last : String) (v : Toml) : Option State := do
  let entries ← Entries.updateAt .header (fun kind => Entries.insertAt path last v kind) s.header
    .defined s.entries
  return { s with entries }

/-- Reads a header from after its opening brackets to its closing ones, and opens its table. -/
def headerLine (s : State) (shared : Bool) (cs : List Char) : Option (State × List Char) := do
  let ((path, last), rest) ← key cs
  let rest ← after ']' rest
  let rest ← if shared then after ']' rest else some rest
  let entries ←
    if shared then Entries.openSharedTable path last s.entries
    else Entries.openTable path last s.entries
  return ({ entries, header := path ++ [last] }, ← lineEnd rest)

/-- Reads a line with a key and a value. -/
def entryLine (s : State) (cs : List Char) : Option (State × List Char) := do
  let ((path, last), rest) ← key cs
  let rest ← after '=' rest
  let (v, rest) ← topValue (skipSpaces rest)
  return (← s.addEntry path last v, ← lineEnd rest)

/-- Reads one line. -/
def line (s : State) (cs : List Char) : Option (State × List Char) :=
  match cs with
  | '#' :: _ | '\n' :: _ | '\r' :: _ => (lineEnd cs).map (s, ·)
  | '[' :: '[' :: rest => headerLine s true rest
  | '[' :: rest => headerLine s false rest
  | _ => entryLine s cs

/-- Reads the lines of a document, at most `fuel` of them. -/
def lines : Nat → State → List Char → Option Entries
  | fuel, s, cs =>
    match skipSpaces cs with
    | [] => some s.entries
    | cs =>
      match fuel with
      | 0 => none
      | fuel + 1 => do
        let (s, rest) ← line s cs
        lines fuel s rest

/-- **The entries of a document.** A byte order mark may stand before it. -/
def parse (text : String) : Option Entries :=
  let cs := match text.toList with
    | '\ufeff' :: cs => cs
    | cs => cs
  lines (cs.length + 1) {} cs

end FaultDiagnosis.Toml
