import ToolRelay.Url.Percent

/-!
# Hosts

A host is a domain name, an address of either version, or, for schemes that are not special, an
opaque text. Numbers in version 4 addresses may be octal or hexadecimal, and the last one may fill
several bytes; version 6 addresses are written with the longest run of zeros left out.
-/

namespace ToolRelay

/-- Why a text is not a URL. -/
inductive UrlFault where
  /-- There is no scheme. -/
  | relativeWithoutBase
  /-- The host is missing. -/
  | emptyHost
  /-- The port is not a 16-bit number. -/
  | invalidPort
  /-- The host looks like a version 4 address but is none. -/
  | invalidIpv4
  /-- The host in brackets is no version 6 address. -/
  | invalidIpv6
  /-- The host is no domain name. -/
  | invalidDomainName
  /-- An opaque host has a forbidden character. -/
  | invalidHostChar
  deriving DecidableEq, Repr

/-- The wording of a fault. -/
def UrlFault.message : UrlFault → String
  | .relativeWithoutBase => "relative URL without a base"
  | .emptyHost => "empty host"
  | .invalidPort => "invalid port number"
  | .invalidIpv4 => "invalid IPv4 address"
  | .invalidIpv6 => "invalid IPv6 address"
  | .invalidDomainName => "invalid international domain name"
  | .invalidHostChar => "invalid domain character"

namespace Url

/-- A host. -/
inductive Host where
  /-- A domain name. -/
  | domain (name : String)
  /-- A version 4 address. -/
  | ipv4 (address : Nat)
  /-- A version 6 address: eight 16-bit pieces. -/
  | ipv6 (pieces : List Nat)
  /-- The text of a host of a scheme that is not special. -/
  | opaqueText (text : String)
  deriving DecidableEq, Repr

/-- Split at every occurrence of a character. -/
def splitAtChar (sep : Char) : List Char → List (List Char)
  | [] => [[]]
  | c :: rest =>
    if c = sep then [] :: splitAtChar sep rest
    else match splitAtChar sep rest with
      | [] => [[c]]
      | part :: parts => (c :: part) :: parts

/-! ## Version 4 addresses -/

/-- Read a number of an address: decimal, octal after a zero, or hexadecimal after `0x`. -/
def readIpv4Number? (cs : List Char) : Option Nat :=
  let readBase := fun (base : Nat) (ds : List Char) =>
    ds.foldlM (fun n c => do
      let d ← Text.hexValue? c
      if d < base then some (n * base + d) else none) 0
  match cs with
  | [] => none
  | '0' :: 'x' :: ds => readBase 16 ds
  | '0' :: 'X' :: ds => readBase 16 ds
  | ['0'] => some 0
  | '0' :: ds => readBase 8 ds
  | ds => readBase 10 ds

/-- The dotted parts of a host, without an empty last one. -/
def ipv4Parts (cs : List Char) : List (List Char) :=
  let parts := splitAtChar '.' cs
  if 1 < parts.length && parts.getLast? == some [] then parts.dropLast else parts

/-- The last part of a host is a number. -/
def endsInNumber (cs : List Char) : Bool :=
  match (ipv4Parts cs).getLast? with
  | none => false
  | some [] => false
  | some part =>
    part.all Text.isDigit ||
      (match part with
        | '0' :: x :: _ => (x == 'x' || x == 'X') && (readIpv4Number? part).isSome
        | _ => false)

/-- Read a version 4 address. -/
def readIpv4? (cs : List Char) : Option Nat := do
  let parts := ipv4Parts cs
  if 4 < parts.length then none
  else
    let numbers ← parts.mapM readIpv4Number?
    let front := numbers.dropLast
    let last ← numbers.getLast?
    if front.any (255 < ·) then none
    else if Nat.pow 256 (5 - numbers.length) ≤ last then none
    else
      let weight := fun (i : Nat) => Nat.pow 256 (3 - i)
      some (front.zipIdx.foldl (fun n p => n + p.1 * weight p.2) last)

/-- The text of a version 4 address. -/
def ipv4Text (n : Nat) : String :=
  let byte := fun (i : Nat) => toString (n / Nat.pow 256 i % 256)
  byte 3 ++ "." ++ byte 2 ++ "." ++ byte 1 ++ "." ++ byte 0

/-! ## Version 6 addresses -/

/-- Read one to four hexadecimal digits. -/
def readPiece? (cs : List Char) : Option Nat :=
  if cs.isEmpty || 4 < cs.length then none
  else cs.foldlM (fun n c => (Text.hexValue? c).map (16 * n + ·)) 0

/-- Read a decimal number up to 255 without a leading zero. -/
def readByte? (cs : List Char) : Option Nat :=
  match cs with
  | [] => none
  | ['0'] => some 0
  | '0' :: _ => none
  | ds =>
    if ds.all Text.isDigit && ds.length ≤ 3 && Text.natOfDigits ds ≤ 255 then
      some (Text.natOfDigits ds)
    else none

/-- Read four dotted bytes as two pieces. -/
def readEmbeddedIpv4? (cs : List Char) : Option (List Nat) :=
  match (splitAtChar '.' cs).mapM readByte? with
  | some [a, b, c, d] => some [256 * a + b, 256 * c + d]
  | _ => none

/-- Read pieces between colons; the last may be a version 4 address. -/
def readPieces? : List (List Char) → Option (List Nat)
  | [] => some []
  | [last] =>
    if last.contains '.' then readEmbeddedIpv4? last else (readPiece? last).map ([·])
  | part :: parts => do
    let n ← readPiece? part
    let ns ← readPieces? parts
    return n :: ns

/-- Split at the first double colon. -/
def splitDoubleColon : List Char → Option (List Char × List Char)
  | [] => none
  | ':' :: ':' :: rest => some ([], rest)
  | c :: rest => (splitDoubleColon rest).map fun p => (c :: p.1, p.2)

/-- Pieces of a text that may be empty. -/
def readSide? (cs : List Char) : Option (List Nat) :=
  if cs.isEmpty then some [] else readPieces? (splitAtChar ':' cs)

/-- Read a version 6 address. -/
def readIpv6? (cs : List Char) : Option (List Nat) :=
  match splitDoubleColon cs with
  | none => do
    let ns ← readSide? cs
    if ns.length = 8 then some ns else none
  | some (front, back) => do
    if front.contains '.' then none
    else
      let a ← readSide? front
      let b ← readSide? back
      if a.length + b.length ≤ 7 then
        some (a ++ List.replicate (8 - a.length - b.length) 0 ++ b)
      else none

/-- The length of the run of zeros at the front. -/
def zeroRun (ns : List Nat) : Nat := (ns.takeWhile (· == 0)).length

/-- Start and length of the first longest run of at least two zeros. -/
def longestZeroRun (ns : List Nat) : Option (Nat × Nat) :=
  (List.range ns.length).foldl (fun best i =>
    let n := zeroRun (ns.drop i)
    match best with
    | none => if 2 ≤ n then some (i, n) else none
    | some (j, m) => if m < n then some (i, n) else some (j, m)) none

/-- Pieces in hexadecimal with colons between them. -/
def piecesText (ns : List Nat) : String :=
  ":".intercalate (ns.map fun n => String.ofList (Nat.toDigits 16 n))

/-- The text of a version 6 address. -/
def ipv6Text (ns : List Nat) : String :=
  match longestZeroRun ns with
  | none => piecesText ns
  | some (i, n) => piecesText (ns.take i) ++ "::" ++ piecesText (ns.drop (i + n))

/-! ## All hosts -/

/-- The text of a host in a URL. -/
def Host.text : Host → String
  | .domain name => name
  | .ipv4 n => ipv4Text n
  | .ipv6 ns => "[" ++ ipv6Text ns ++ "]"
  | .opaqueText s => s

/-- The characters that no host may have. -/
def forbiddenInHost (c : Char) : Bool :=
  ['\x00', '\t', '\n', '\r', ' ', '#', '/', ':', '<', '>', '?', '@', '[', '\\', ']', '^',
    '|'].contains c

/-- The characters that no domain name may have. -/
def forbiddenInDomain (c : Char) : Bool :=
  forbiddenInHost c || isControl c || c == '%'

end Url

end ToolRelay
