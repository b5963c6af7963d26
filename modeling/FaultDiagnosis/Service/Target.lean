import FaultDiagnosis.Json.Reading
import FaultDiagnosis.Text.Utf8

/-!
# Request targets

The target of an HTTP request consists of a path and, after a question mark, a query. The path is
compared as it is written. The query is a list of keys and values in the encoding of forms: a plus
stands for a space, and a percent sign with two hexadecimal digits for a byte.
-/

namespace FaultDiagnosis.Service

/-- A path and a query. -/
structure Target where
  path : String
  query : String
  deriving DecidableEq, Repr

namespace Target

/-- The text after the scheme and the host, where a target starts with them. -/
def withoutHost (cs : List Char) : List Char :=
  match cs with
  | '/' :: _ => cs
  | _ =>
    match cs.dropWhile fun c => c ≠ ':' && c ≠ '/' with
    | ':' :: '/' :: '/' :: rest =>
      match rest.dropWhile fun c => c ≠ '/' && c ≠ '?' with
      | '/' :: path => '/' :: path
      | rest => '/' :: rest
    | _ => cs

/-- The target that a text names. A fragment is dropped. -/
def ofString (s : String) : Target :=
  let cs := withoutHost (s.toList.takeWhile (· ≠ '#'))
  { path := String.ofList (cs.takeWhile (· ≠ '?'))
    query := String.ofList ((cs.dropWhile (· ≠ '?')).drop 1) }

end Target

/-! ### Form encoding -/

/-- The bytes of a text in form encoding. A percent sign that is not followed by two hexadecimal
digits stands for itself. -/
def formBytes : List Nat → List Nat
  | 0x2B :: rest => 0x20 :: formBytes rest
  | 0x25 :: a :: b :: rest =>
    match Json.Reading.hexValue? (Char.ofNat a), Json.Reading.hexValue? (Char.ofNat b) with
    | some h, some l => (16 * h + l) :: formBytes rest
    | _, _ => 0x25 :: formBytes (a :: b :: rest)
  | b :: rest => b :: formBytes rest
  | [] => []

/-- A text in form encoding, decoded. -/
def formText (cs : List Char) : String :=
  String.ofList (Text.decodeUtf8 (formBytes ((String.ofList cs).toUTF8.toList.map UInt8.toNat)))

/-- A key and its value, which are separated by the first equals sign. -/
def formPair (cs : List Char) : String × String :=
  (formText (cs.takeWhile (· ≠ '=')), formText ((cs.dropWhile (· ≠ '=')).drop 1))

/-- **The keys and values of a query.** Empty stretches between ampersands are passed over. -/
def formPairs (query : String) : List (String × String) :=
  ((query.toList.splitOnP (· = '&')).filter (!·.isEmpty)).map formPair

end FaultDiagnosis.Service
