import CardFilter.Names.Endpoint
import CardFilter.Number.Count

/-!
# Requests and answers on the wire

How a request is written for a server that listens at an address, and how the answer is read when
the server has closed the connection.  Only addresses without encryption have a form here, and
redirections are not followed.
-/

namespace CardFilter

/-- Where a server listens, and what is asked of it. -/
structure WebAddress where
  host : String
  /-- The number of the service at the host. -/
  service : UInt16
  target : String
deriving DecidableEq, Repr

namespace WebAddress

def scheme : List Char := "http://".toList

/-- Whether a byte stands for itself in a target. -/
def isPlain (byte : UInt8) : Bool := 0x21 ≤ byte && byte ≤ 0x7e

def percent (byte : UInt8) : List Char :=
  let digits := (Nat.toDigits 16 byte.toNat).map Char.toUpper
  '%' :: List.replicate (2 - digits.length) '0' ++ digits

/-- A text in which every byte that does not stand for itself is given by its number. -/
def encoded (text : List Char) : List Char :=
  (String.ofList text).toUTF8.toList.flatMap fun byte ↦
    if isPlain byte then [Char.ofNat byte.toNat] else percent byte

/-- The number behind a colon, or the usual one. -/
def service? : List Char → Option UInt16
  | [] | [':'] => some 80
  | ':' :: digits =>
    match Count.ofChars digits with
    | .ok value => if value < 65536 then some value.toUInt16 else none
    | .error _ => none
  | _ => none

/-- The address in the text of a URL. -/
def ofUrl? (url : String) : Option WebAddress := do
  let text := Text.trim url.toList
  if (text.take scheme.length).map Char.toLower ≠ scheme then none
  let rest := text.drop scheme.length
  let isAuthority (c : Char) : Bool := c != '/' && c != '?' && c != '#'
  let authority := rest.takeWhile isAuthority
  let target := (rest.dropWhile isAuthority).takeWhile (· != '#')
  let host := authority.takeWhile (· != ':')
  if host.isEmpty then none
  return {
    host := String.ofList host
    service := ← service? (authority.dropWhile (· != ':'))
    target :=
      String.ofList (if target.head? = some '/' then encoded target else '/' :: encoded target) }

end WebAddress

namespace WebRequest

def lineEnd : String := "\r\n"

def headerLine (header : String × String) : String := header.1 ++ ": " ++ header.2

/-- The text of a request, after whose answer the server closes the connection. -/
def message (request : WebRequest) (address : WebAddress) : String :=
  let headers := [("host", address.host ++ ":" ++ toString address.service), ("accept", "*/*")] ++
    request.headers ++
    [("content-length", toString request.body.utf8ByteSize), ("connection", "close")]
  let head := (request.method ++ " " ++ address.target ++ " HTTP/1.1") :: headers.map headerLine
  lineEnd.intercalate head ++ lineEnd ++ lineEnd ++ request.body

end WebRequest

namespace WebResponse

/-- Bytes up to the first end of a line, and those behind it. -/
def splitLine? : List UInt8 → Option (List UInt8 × List UInt8)
  | 13 :: 10 :: rest => some ([], rest)
  | byte :: rest => (splitLine? rest).map fun (line, rest) ↦ (byte :: line, rest)
  | [] => none

theorem length_splitLine? {bytes line rest : List UInt8}
    (h : splitLine? bytes = some (line, rest)) : rest.length < bytes.length := by
  fun_induction splitLine? bytes generalizing line with
  | case1 =>
    obtain ⟨-, rfl⟩ := Prod.mk.inj (Option.some.inj h)
    simp only [List.length_cons]
    omega
  | case2 byte tail _ ih =>
    obtain ⟨⟨line', rest'⟩, h', same⟩ := Option.map_eq_some_iff.1 h
    obtain ⟨-, rfl⟩ := Prod.mk.inj same
    have := ih h'
    simp only [List.length_cons]
    omega
  | case3 => simp at h

def asText (bytes : List UInt8) : List Char := bytes.map fun byte ↦ Char.ofNat byte.toNat

/-- The lines up to an empty one, and the bytes behind that. -/
def splitHead? (bytes : List UInt8) : Option (List (List Char) × List UInt8) :=
  match h : splitLine? bytes with
  | none => none
  | some ([], rest) => some ([], rest)
  | some (line, rest) =>
    have := length_splitLine? h
    (splitHead? rest).map fun (lines, rest) ↦ (asText line :: lines, rest)
termination_by bytes.length

/-- The value of a header, whose name is given in small letters. -/
def header? (name : String) (lines : List (List Char)) : Option (List Char) :=
  lines.findSome? fun line ↦
    if (line.takeWhile (· != ':')).map Char.toLower = name.toList then
      some (Text.trim ((line.dropWhile (· != ':')).drop 1))
    else none

/-- The value of digits to base sixteen. -/
def hexValue? (digits : List Char) : Option Nat :=
  if digits.isEmpty then none
  else
    digits.foldlM (fun value c ↦
      let digit := c.toLower
      if '0' ≤ digit ∧ digit ≤ '9' then some (16 * value + (digit.toNat - '0'.toNat))
      else if 'a' ≤ digit ∧ digit ≤ 'f' then some (16 * value + (digit.toNat - 'a'.toNat + 10))
      else none) 0

/-- Joins the pieces of a body that is sent in pieces, each behind a line with its length. -/
def joinChunks? (bytes : List UInt8) : Option (List UInt8) :=
  match h : splitLine? bytes with
  | none => none
  | some (line, rest) =>
    match hexValue? (Text.trim ((asText line).takeWhile (· != ';'))) with
    | none => none
    | some 0 => some []
    | some size =>
      have := length_splitLine? h
      if rest.length < size + 2 then none
      else (joinChunks? (rest.drop (size + 2))).map (rest.take size ++ ·)
termination_by bytes.length
decreasing_by simp only [List.length_drop]; omega

/-- The body behind the head: in pieces, of a given length, or all that is there. -/
def body? (lines : List (List Char)) (bytes : List UInt8) : Option (List UInt8) :=
  if (header? "transfer-encoding" lines).map (·.map Char.toLower) = some "chunked".toList then
    joinChunks? bytes
  else
    match header? "content-length" lines with
    | none => some bytes
    | some digits =>
      match Count.ofChars digits with
      | .ok size => if bytes.length < size.toNat then none else some (bytes.take size.toNat)
      | .error _ => none

/-- The number in the first line of an answer. -/
def status? (line : List Char) : Option Nat :=
  if "HTTP/1.".toList.isPrefixOf line then
    let digits := ((line.dropWhile (· != ' ')).drop 1).takeWhile (· != ' ')
    (Count.ofChars digits).toOption.map UInt64.toNat
  else none

/-- Reads a whole answer; a body that is no text is an empty one. -/
def ofBytes? (bytes : List UInt8) : Option WebResponse := do
  let (lines, rest) ← splitHead? bytes
  let status ← status? (← lines.head?)
  let body ← body? lines rest
  return ⟨status, (String.fromUTF8? ⟨body.toArray⟩).getD ""⟩

end WebResponse

end CardFilter
