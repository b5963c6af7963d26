/-!
# Media types

A request with a body says what kind of body it is by a media type, such as
`application/json; charset=utf-8`. `MediaType.ofString?` reads one, and `MediaType.isJson` says
whether it announces JSON: as `application/json` itself, or as another type of applications with the
suffix `+json`. Case does not matter, and neither do parameters, as long as they are well written.
-/

namespace FaultDiagnosis.Service

/-- The part before the slash, the part after it up to its last plus, and the part after that. -/
structure MediaType where
  type : String
  subtype : String
  suffix : Option String
  deriving DecidableEq, Repr

namespace MediaType

/-- Letters, digits and the signs that names may contain besides them. -/
def isTokenChar (c : Char) : Bool :=
  c.isAlphanum || "!#$%&'+-.^_|~\x60".toList.contains c

/-- May the character stand between quotation marks? -/
def isQuotedChar (c : Char) : Bool :=
  decide (0x20 ≤ c.toNat ∧ c.toNat < 0x7F) && c ≠ '"' && c ≠ '\\' || c = '\t'

/-- What follows a quoted value: blanks, then the next parameter or the end. -/
def afterQuoted : List Char → Option (List Char)
  | [] => some []
  | ';' :: rest => some rest
  | ' ' :: rest => afterQuoted rest
  | _ => none

/-- The value of a parameter. Gives what follows it, after the semicolon. -/
def value : List Char → Option (List Char)
  | '"' :: cs =>
    match cs.dropWhile isQuotedChar with
    | '"' :: rest => if cs.head? = some '"' then none else afterQuoted rest
    | _ => none
  | cs =>
    match cs.dropWhile isTokenChar with
    | [] => some []
    | ';' :: rest => if cs.head? = some ';' then none else some rest
    | _ => none

/-- Are the parameters well written? `fuel` bounds their number. -/
def areParameters : Nat → List Char → Bool
  | _, [] => true
  | 0, _ => false
  | fuel + 1, cs =>
    let cs := cs.dropWhile (· = ' ')
    if cs.isEmpty then true
    else
      match cs.dropWhile isTokenChar with
      | '=' :: rest =>
        if cs.head? = some '=' then false
        else
          match value rest with
          | some rest => areParameters fuel rest
          | none => false
      | _ => false

/-- A text in lower case, where only ASCII letters have cases. -/
def lower (cs : List Char) : String :=
  String.ofList (cs.map Char.toLower)

/-- **The media type that a text names.** -/
def ofString? (s : String) : Option MediaType :=
  let cs := s.toList
  let type := cs.takeWhile isTokenChar
  match cs.dropWhile isTokenChar with
  | '/' :: rest =>
    let full := rest.takeWhile isTokenChar
    let after := rest.dropWhile isTokenChar
    let wellWritten := match after with
      | [] => true
      | ';' :: parameters => !full.isEmpty && areParameters (parameters.length + 1) parameters
      | _ => false
    if type.isEmpty || !wellWritten then none
    else
      let suffix := (full.reverse.takeWhile (· ≠ '+')).reverse
      let before := full.take (full.length - suffix.length - 1)
      if before.isEmpty then some ⟨lower type, lower full, none⟩
      else some ⟨lower type, lower before, some (lower suffix)⟩
  | _ => none

/-- Does the media type announce JSON? -/
def isJson (m : MediaType) : Bool :=
  m.type = "application" && (m.subtype = "json" || m.suffix = some "json")

end MediaType

end FaultDiagnosis.Service
